import Winnow.Proofs.Number.Rounding
import Winnow.Proofs.Number.RoundTrip
import Winnow.Proofs.Service.Pages
import Winnow.Proofs.Store.Coercion
import Winnow.Proofs.Store.Run

/-!
# Winnow.Proofs.Service.Account — whether the account of a page agrees with its rows

The rows of a page come from a window of integers, and the number of pages from a quotient that is a
double for a while. Both agree (`PageInfo.Agrees`) if a page with rows is one of the pages, and if
there are pages exactly when there are rows.

* `Paginator.exists_of_result`: what a build in paged mode has asked for and found.
* `Paginator.pagesCount_isLeast`: the number of pages is the least that holds all rows, in the range
  of what a store counts.
* `Selection.lt_of_mem_page`: a page with rows begins before the last row.

Main statement: which searches in paged mode have an account that agrees (`agrees_iff`). As long as
the rows are counted in 53 bits, these are the searches that find nothing and those whose page size
is less than `2 ^ 1075` times the number of rows. Requests do not bound the page size, and beyond
that the quotient comes to nothing: a page with rows is told to be one of no pages
(`hugePage_disagrees`).
-/

namespace Winnow

/-- The account agrees with the rows of the page: a page with rows is one of the pages, and there
are pages exactly if there are rows. -/
structure PageInfo.Agrees (i : PageInfo) (rows : List Value) : Prop where
  isPage : rows ≠ [] → 1 ≤ i.current ∧ i.current ≤ i.pagesCount
  hasPages : i.pagesCount = 0 ↔ i.count = 0

namespace Paginator

theorem eq_of_pageSize {v : Value} {n : Int} (h : pageSize v = .ok n) : v = .int n ∧ 1 ≤ n := by
  cases v with
  | int k =>
    rw [pageSize] at h
    split at h
    · rename_i hPositive
      obtain rfl : k = n := Except.ok.inj h
      exact ⟨rfl, hPositive⟩
    · cases h
  | _ => cases h

/-- Page numbers begin with one. -/
theorem pageNumber_int (n : Int) : pageNumber (.int n) = .ok (max n 1) := by
  rw [pageNumber]
  by_cases hTruthy : (Value.int n).isTruthy = true
  · rw [if_pos hTruthy]
    rfl
  · have hZero : n = 0 := by simpa [Value.isTruthy] using hTruthy
    rw [if_neg hTruthy, hZero]
    rfl

variable {ρ : Type} {src : Source ρ} {r : PageRequest} {p : Paginator} {n : Int}

/-- What a build in paged mode has asked for and found. -/
theorem exists_of_result (hSkip : r.skip = false) (hPage : r.page = .int n)
    (h : (build src r).result = .ok p) :
    ∃ rows i, p.info? = some i ∧ r.perPage = .int i.perPage ∧ 1 ≤ i.perPage ∧ i.current = max n 1 ∧
      src.count = .ok i.count ∧ src.page i.perPage i.current = .ok rows ∧
      rows.mapM (src.serialize r.serializer) = .ok p.rows ∧
      pagesCount i.count i.perPage = .ok i.pagesCount := by
  rw [build, hSkip, if_neg Bool.false_ne_true, buildPage, hPage, pageNumber_int] at h
  -- the page size, the count, the rows and the number of pages, in the order of the build
  cases hSize : pageSize r.perPage with
  | error e => simp [hSize, Built.failed, Built.result] at h
  | ok perPage =>
    cases hCount : src.count with
    | error e => simp [hSize, hCount, Built.failed, Built.result] at h
    | ok count =>
      cases hRows : serializeAll src r.serializer (src.page perPage (max n 1)) with
      | error e => simp [hSize, hCount, hRows, Built.failed, Built.result] at h
      | ok values =>
        cases hPages : pagesCount count perPage with
        | error e => simp [hSize, hCount, hRows, hPages, Built.result] at h
        | ok pages =>
          obtain ⟨rows, hRows', hValues⟩ := bind_eq_ok_iff.mp hRows
          simp only [hSize, hCount, hRows, hPages, Built.result] at h
          obtain ⟨hPerPage, hPositive⟩ := eq_of_pageSize hSize
          cases h
          exact ⟨rows, _, rfl, hPerPage, hPositive, rfl, rfl, hRows', hValues, hPages⟩

variable {count : Nat} {perPage pages : Int}

/-- The number of pages is the integer above a double. -/
theorem exists_double_of_pagesCount
    (h : pagesCount count perPage = .ok pages) :
    ∃ m q, Binary64.round false count perPage.toNat = .finite false m q ∧
      pages = ⌈(Binary64.finite false m q).value⌉ := by
  rw [pagesCount, Int.natAbs_natCast, decide_eq_false (not_lt.mpr (Int.natCast_nonneg count))] at h
  rcases Binary64.round_cases false count perPage.toNat with ⟨m, q, hRound⟩ | hRound
  · rw [hRound, Binary64.ceiling?_finite] at h
    exact ⟨m, q, hRound, (Except.ok.inj h).symm⟩
  · rw [hRound] at h
    cases h

theorem pagesCount_eq_ceil (h : pagesCount count perPage = .ok pages) :
    pages = ⌈(Binary64.round false count perPage.toNat).value⌉ := by
  obtain ⟨m, q, hRound, hPages⟩ := exists_double_of_pagesCount h
  rw [hPages, hRound]

theorem mul_pow_le_iff (a b k : Nat) : (a : Int) * 2 ^ k ≤ b ↔ a * 2 ^ k ≤ b := by
  exact_mod_cast Iff.rfl

/-- **There are no pages** if there are no rows, or if the page size is out of all proportion to
their number. -/
theorem pagesCount_eq_zero_iff (hPositive : 1 ≤ perPage)
    (h : pagesCount count perPage = .ok pages) :
    pages = 0 ↔ count * 2 ^ 1075 ≤ perPage := by
  obtain ⟨m, q, hRound, rfl⟩ := exists_double_of_pagesCount h
  obtain ⟨size, rfl⟩ := Int.eq_ofNat_of_zero_le (by omega : 0 ≤ perPage)
  have hSize : 0 < size := by omega
  have hNonneg : 0 ≤ (Binary64.finite false m q).value := Binary64.magnitude_nonneg m q
  have hCeil : ⌈(Binary64.finite false m q).value⌉ = 0 ↔ (Binary64.finite false m q).value = 0 := by
    rw [Int.ceil_eq_zero_iff]
    exact ⟨fun h => le_antisymm h.2 hNonneg, fun h => by simp [h]⟩
  rw [hCeil]
  rcases Nat.eq_zero_or_pos count with rfl | hCount
  · have hZero : Binary64.zero false = .finite false m q := hRound
    have hNothing : (Binary64.zero false).value = 0 := by simp [Binary64.zero, Binary64.value]
    rw [← hZero, Nat.cast_zero, zero_mul]
    exact iff_of_true hNothing (by omega)
  · rw [Binary64.value_round_eq_zero_iff hCount hSize hRound]
    exact (mul_pow_le_iff _ _ _).symm

/-- **The number of pages** of rows that are counted in 53 bits. -/
theorem pagesCount_eq_ceil_div (hBits : count < 2 ^ 53) (hPositive : 1 ≤ perPage)
    (hSome : perPage < count * 2 ^ 1075) (h : pagesCount count perPage = .ok pages) :
    pages = ⌈(count : ℚ) / perPage⌉ := by
  obtain ⟨m, q, hRound, rfl⟩ := exists_double_of_pagesCount h
  obtain ⟨size, rfl⟩ := Int.eq_ofNat_of_zero_le (by omega : 0 ≤ perPage)
  have hSize : 0 < size := by omega
  have hNatSome : size < count * 2 ^ 1075 :=
    not_le.mp fun hLe => absurd hSome (not_lt.mpr ((mul_pow_le_iff _ _ _).mpr hLe))
  have hCount : 0 < count :=
    pos_of_mul_pos_left (lt_of_le_of_lt (Nat.zero_le size) hNatSome) (Nat.zero_le _)
  exact Binary64.ceil_value_round hCount hSize hBits hRound hNatSome

/-- If the page size has 63 bits, no row is no exception. -/
theorem pagesCount_eq_ceil_div_of_lt (hBits : count < 2 ^ 53) (hPositive : 1 ≤ perPage)
    (hSize : perPage < 2 ^ 63) (h : pagesCount count perPage = .ok pages) :
    pages = ⌈(count : ℚ) / perPage⌉ := by
  rcases Nat.eq_zero_or_pos count with rfl | hSome
  · have hNone : pages = 0 := by
      rw [pagesCount_eq_zero_iff hPositive h]
      omega
    rw [hNone, Nat.cast_zero, zero_div, Int.ceil_zero]
  · refine pagesCount_eq_ceil_div hBits hPositive ?_ h
    calc perPage < 2 ^ 63 := hSize
      _ ≤ 2 ^ 1075 := pow_le_pow_right₀ (by decide) (by decide)
      _ ≤ count * 2 ^ 1075 := le_mul_of_one_le_left (by positivity) (by exact_mod_cast hSome)

/-- The integer above a quotient is the least number of pages that are enough. -/
theorem isLeast_ceil_div (hPositive : 1 ≤ perPage) :
    IsLeast {n : Int | (count : Int) ≤ n * perPage} ⌈(count : ℚ) / perPage⌉ := by
  have hSizeQ : (0 : ℚ) < perPage := by exact_mod_cast hPositive
  have hEnough (n : Int) : (count : Int) ≤ n * perPage ↔ (count : ℚ) / perPage ≤ n := by
    rw [div_le_iff₀ hSizeQ]
    exact_mod_cast Iff.rfl
  simp only [hEnough]
  exact Int.gc_ceil_coe.isLeast_l

/-- **The number of pages is the least that holds all rows**, if these are counted in 53 bits and the
page size has 63 bits at most. The quotient is a double for a while, but never one on the other side
of an integer. Every build in paged mode has this number in its account. -/
theorem pagesCount_isLeast (count perPage : Int) (hCount : 0 ≤ count) (hBits : count < 2 ^ 53)
    (hPositive : 1 ≤ perPage) (hSize : perPage < 2 ^ 63) :
    ∃ pages, pagesCount count perPage = .ok pages ∧
      IsLeast {n : Int | count ≤ n * perPage} pages ∧
      ∀ (src : Source ρ) (r : PageRequest) (n : Int) (p : Paginator), src.count = .ok count →
        r.perPage = .int perPage → r.page = .int n → r.skip = false →
        (build src r).result = .ok p → ∃ i, p.info? = some i ∧ i.pagesCount = pages := by
  obtain ⟨count, rfl⟩ := Int.eq_ofNat_of_zero_le hCount
  have hBitsNat : count < 2 ^ 53 := by exact_mod_cast hBits
  obtain ⟨size, rfl⟩ := Int.eq_ofNat_of_zero_le (by omega : 0 ≤ perPage)
  obtain ⟨pages, hPages⟩ := exists_pagesCount size (hBitsNat.trans (by decide))
  refine ⟨pages, hPages, ?_, fun src r n p hSource hPerPage hPage hSkip hBuild => ?_⟩
  · rw [pagesCount_eq_ceil_div_of_lt hBitsNat hPositive hSize hPages]
    exact isLeast_ceil_div hPositive
  · obtain ⟨-, i, hInfo, hOf, -, -, hTold, -, -, hAccount⟩ := exists_of_result hSkip hPage hBuild
    have hSameCount : i.count = count := Except.ok.inj (hTold.symm.trans hSource)
    have hSameSize : i.perPage = size := Value.int.inj (hOf.symm.trans hPerPage)
    rw [hSameCount, hSameSize] at hAccount
    exact ⟨i, hInfo, Except.ok.inj (hAccount.symm.trans hPages)⟩

/-- One row more than a page of `2 ^ 53 - 2` rows holds, and nothing to read. The quotient exceeds one
by just more than half of what tells one from the next double. -/
def oneRowOver : Source Unit :=
  ⟨.ok 9007199254740991, fun _ _ => .ok [], .ok [], fun _ _ => .ok .null⟩

theorem pagesCount_isLeast_oneRowOver : ∃ p i,
    (9007199254740991 : Int) < 2 ^ 53 ∧ (9007199254740990 : Int) < 2 ^ 63 ∧
      pagesCount 9007199254740991 9007199254740990 = .ok 2 ∧
      IsLeast {n : Int | 9007199254740991 ≤ n * 9007199254740990} 2 ∧
      (build oneRowOver ⟨.int 9007199254740990, .int 1, "to_dict", false⟩).result = .ok p ∧
      p.info? = some i ∧ i.pagesCount = 2 := by
  have hTwo : pagesCount 9007199254740991 9007199254740990 = .ok 2 := by decide
  obtain ⟨p, hBuild⟩ : ∃ p, (build oneRowOver
      ⟨.int 9007199254740990, .int 1, "to_dict", false⟩).result = .ok p := ⟨_, rfl⟩
  obtain ⟨pages, hPages, hLeast, hAccount⟩ :=
    pagesCount_isLeast (ρ := Unit) 9007199254740991 9007199254740990 (by decide) (by decide)
      (by decide) (by decide)
  obtain rfl : pages = 2 := Except.ok.inj (hPages.symm.trans hTwo)
  obtain ⟨i, hInfo, hTold⟩ := hAccount oneRowOver _ 1 p rfl rfl rfl rfl hBuild
  exact ⟨p, i, by decide, by decide, hTwo, hLeast, hBuild, hInfo, hTold⟩

end Paginator

namespace Selection

variable {db : Database} {s : Selection}

/-- A page with rows begins before the last row. -/
theorem lt_of_mem_page {perPage page : Int} {rows : List Row} {r : Row}
    (hOffset : 0 ≤ (page - 1) * perPage) (h : s.page db perPage page = .ok rows) (hRow : r ∈ rows) :
    (page - 1) * perPage < (s.matching db).length := by
  unfold Selection.page at h
  dsimp only at h
  split at h
  · cases h
    cases hRow
  · obtain ⟨_, -, hWindow⟩ := bind_eq_ok_iff.mp h
    obtain rfl := Except.ok.inj hWindow
    have hRest : r ∈ (s.ordered db).drop ((page - 1) * perPage).toNat := by
      unfold window at hRow
      dsimp only at hRow
      split at hRow
      · exact hRow
      · exact List.mem_of_mem_take hRow
    have hLength := List.length_pos_of_mem hRest
    rw [List.length_drop, ordered, inOrder, List.length_mergeSort] at hLength
    omega

end Selection

namespace PageInfo

variable {i : PageInfo} {values : List Value}

/-- An account agrees with its rows if there are none, or if the page size is not out of all
proportion to their number. -/
theorem agrees_iff_of_pagesCount (hCurrent : 1 ≤ i.current) (hSize : 1 ≤ i.perPage)
    (hCount : 0 ≤ i.count) (hBits : i.count < 2 ^ 53)
    (hRows : values ≠ [] → (i.current - 1) * i.perPage < i.count)
    (hPages : Paginator.pagesCount i.count i.perPage = .ok i.pagesCount) :
    i.Agrees values ↔ i.count = 0 ∨ i.perPage < i.count * 2 ^ 1075 := by
  obtain ⟨count, hNat⟩ := Int.eq_ofNat_of_zero_le hCount
  rw [hNat] at hPages hRows hBits ⊢
  have hZero := Paginator.pagesCount_eq_zero_iff hSize hPages
  constructor
  · intro h
    by_contra hNot
    obtain ⟨hSome, hLarge⟩ := not_or.mp hNot
    exact hSome (hNat ▸ h.hasPages.mp (hZero.mpr (not_lt.mp hLarge)))
  · rintro (hNone | hSome)
    · have hNoRows : values = [] := by
        by_contra hSome
        have hLt := hRows hSome
        have hNonneg : 0 ≤ (i.current - 1) * i.perPage := Int.mul_nonneg (by omega) (by omega)
        omega
      refine ⟨fun hSome => absurd hNoRows hSome, ?_⟩
      rw [hZero, hNat, hNone]
      simp only [zero_mul, iff_true]
      omega
    · -- the number of pages is exact here, so a page with rows is one of them
      have hExact := Paginator.pagesCount_eq_ceil_div (by exact_mod_cast hBits) hSize hSome hPages
      refine ⟨fun hValues => ⟨hCurrent, ?_⟩, ?_⟩
      · have hSizeQ : (0 : ℚ) < i.perPage := by exact_mod_cast hSize
        have hLt : ((i.current - 1 : ℤ) : ℚ) * i.perPage < count := by exact_mod_cast hRows hValues
        have hCeil := Int.lt_ceil.mpr ((lt_div_iff₀ hSizeQ).mpr hLt)
        rw [hExact]
        omega
      · rw [hZero, hNat]
        constructor
        · exact fun hLarge => absurd hSome (not_lt.mpr hLarge)
        · intro hNone
          rw [hNone] at hSome
          simp only [zero_mul] at hSome
          omega

end PageInfo

namespace Resource

/-- **Which accounts agree.** A search in paged mode that gives an answer tells the number of the
rows that it selects, and a page with rows begins before the last of them. The number of pages is
the integer above the double of a quotient, which comes to nothing if the page size is `2 ^ 1075`
times the number of rows or more. Of rows that are counted in 53 bits the account agrees with the
page otherwise. -/
theorem agrees_iff (db : Database) (r : Resource) (q : SearchRequest) (p : Paginator)
    (hPaged : q.skipPagination = false) (h : r.searchPage db q = .ok p) :
    ∃ s i, r.selection db r.searchScope q = .ok s ∧ p.info? = some i ∧
      i.count = (s.matching db).length ∧ i.current = max q.page 1 ∧ 1 ≤ i.perPage ∧
      (q.perPage?.map Value.int).getD r.perPage = .int i.perPage ∧
      i.pagesCount = ⌈(Binary64.round false i.count.toNat i.perPage.toNat).value⌉ ∧
      (i.pagesCount = 0 ↔ i.count * 2 ^ 1075 ≤ i.perPage) ∧
      (p.rows ≠ [] → (i.current - 1) * i.perPage < i.count) ∧
      (i.count < 2 ^ 53 → (i.Agrees p.rows ↔ i.count = 0 ∨ i.perPage < i.count * 2 ^ 1075)) := by
  obtain ⟨s, hSelection, hBuild⟩ := bind_eq_ok_iff.mp h
  obtain ⟨rows, i, hInfo, hPerPage, hSize, hCurrent, hCount, hPage, hValues, hPages⟩ :=
    Paginator.exists_of_result hPaged rfl hBuild
  have hNumber : i.count = (s.matching db).length := by
    change (s.count db).map Int.ofNat = .ok i.count at hCount
    cases hAsked : s.count db with
    | error e => simp [hAsked, Except.map] at hCount
    | ok n =>
      rw [hAsked] at hCount
      rw [← Except.ok.inj hCount, Selection.eq_of_count hAsked]
      rfl
  have hOne : 1 ≤ i.current := hCurrent ▸ le_max_right _ _
  have hRows : p.rows ≠ [] → (i.current - 1) * i.perPage < i.count := by
    intro hSome
    have hLength := (mapM_eq_ok_iff.mp hValues).length_eq
    obtain ⟨row, hRow⟩ : ∃ row, row ∈ rows := by
      refine List.exists_mem_of_length_pos ?_
      rw [hLength]
      exact List.length_pos_of_ne_nil hSome
    rw [hNumber]
    exact Selection.lt_of_mem_page (Int.mul_nonneg (by omega) (by omega)) hPage hRow
  have hPagesNat := hPages
  rw [hNumber] at hPagesNat
  refine ⟨s, i, hSelection, hInfo, hNumber, hCurrent, hSize, hPerPage, ?_, ?_, hRows, ?_⟩
  · rw [hNumber, Int.toNat_natCast]
    exact Paginator.pagesCount_eq_ceil hPagesNat
  · rw [hNumber]
    exact Paginator.pagesCount_eq_zero_iff hSize hPagesNat
  · intro hBits
    exact PageInfo.agrees_iff_of_pagesCount hOne hSize (by omega) hBits hRows hPages

/-- An accepted search whose rows have records gives a page of them. -/
theorem Accepts.exists_page {db : Database} {r : Resource} {q : SearchRequest}
    {filtered s : Selection} {limit? : Option Nat} {perPage i : Nat} {pages : Int}
    {rows : List Row} (h : r.Accepts db q filtered s limit? perPage)
    (hPages : Paginator.pagesCount (filtered.matching db).length perPage = .ok pages)
    (hPage : (s.withCap limit?).page db perPage (i + 1) = .ok rows)
    (hRecords : ∀ row ∈ rows, ∃ v, db.serialize r.model r.serializer row = .ok v) :
    ∃ p, r.searchPage db (q.onPage i) = .ok p ∧ p.rows.length = rows.length ∧
      p.info? = some ⟨i + 1, perPage, pages, (filtered.matching db).length⟩ := by
  obtain ⟨values, hValues⟩ := exists_mapM_eq_ok hRecords
  refine ⟨⟨values, some ⟨i + 1, perPage, pages, (filtered.matching db).length⟩⟩, ?_,
    (mapM_eq_ok_iff.mp hValues).length_eq.symm, rfl⟩
  rw [h.searchPage_onPage hPages i, hPage]
  exact congrArg (Except.map _) hValues

/-- The second page of five products, two on a page, is one of three pages. -/
theorem agrees_iff_dearProducts : ∃ p i,
    plainProducts.searchPage Sample.shop ((dearProducts none).onPage 1) = .ok p ∧
      p.info? = some i ∧ i = ⟨2, 2, 3, 5⟩ ∧ p.rows ≠ [] ∧ i.Agrees p.rows := by
  have hAccepts := accepts_dearProducts none (by decide)
  have hRecords : ∀ row ∈ pageOf none 2 1 (dearestFirst.ordered Sample.shop),
      ∃ v, Sample.shop.serialize Sample.product "to_dict" row = .ok v := by
    intro row hRow
    have hOrdered := List.mem_of_mem_take (List.mem_of_mem_drop hRow)
    exact exists_record_of_product row (Selection.mem_rows_of_mem_ordered hOrdered)
  have hPages : Paginator.pagesCount (activeSelection.matching Sample.shop).length (2 : Nat) =
      .ok 3 := by decide
  obtain ⟨p, hSearch, hLength, hInfo⟩ := hAccepts.exists_page hPages
    (hAccepts.answered.page_eq_pageOf (by decide)) hRecords
  rw [length_activeSelection] at hInfo
  have hRows : p.rows ≠ [] := by
    rw [← List.length_pos_iff, hLength, pageOf, List.length_drop, List.length_take,
      hAccepts.length_ordered, length_activeSelection]
    decide
  obtain ⟨s, i, -, hOther, -, -, -, -, -, -, -, hAgrees⟩ :=
    agrees_iff Sample.shop plainProducts _ p rfl hSearch
  obtain rfl : _ = i := Option.some.inj (hInfo.symm.trans hOther)
  exact ⟨p, _, hSearch, hInfo, rfl, hRows, (hAgrees (by decide)).mpr (.inr (by decide +kernel))⟩

end Resource

/-! ## Pages out of all proportion -/

namespace SearchRequest

variable {n : Int} {params : List (String × Param)}

/-- The numeral of an integer of at most 4300 digits is read as a parameter. -/
theorem intParam_intText (name : String)
    (hShort : (Text.natChars n.natAbs).length ≤ Number.maxDigits) :
    intParam name (some (.text (Text.intText n))) = .ok (some n) := by
  have hVisible : ∀ c ∈ (Text.intText n).toList, Text.isBlank c = false := fun c hc =>
    (Number.isNumeral_of_mem_intText hc).isBlank_eq_false
  have hNotBlank : ¬ Text.isAllBlank (Text.intText n) = true := by
    obtain ⟨c, hc⟩ : ∃ c, c ∈ (Text.intText n).toList := by
      refine List.exists_mem_of_ne_nil _ ?_
      rw [Number.toList_intText]
      exact List.append_ne_nil_of_right_ne_nil _ (Text.natChars_ne_nil _)
    intro hBlank
    have hIs := List.all_eq_true.mp hBlank c hc
    rw [hVisible c hc] at hIs
    cases hIs
  have hTrim : Text.trimChars (Text.intText n).toList = (Text.intText n).toList :=
    Text.stripChars_of_forall hVisible
  refine (if_neg hNotBlank).trans ?_
  rw [Param.toValue, Value.display_text, Text.toList_trim, hTrim, Number.readInt?_intText hShort]

theorem perPageParam_intText (hParam : Param.get? "perPage" params = some (.text (Text.intText n)))
    (hShort : (Text.natChars n.natAbs).length ≤ Number.maxDigits) (hPositive : 1 ≤ n) :
    perPageParam params = .ok (some n) := by
  refine bind_eq_ok_iff.mpr ⟨some n, ?_, if_neg (by omega)⟩
  rw [hParam]
  exact intParam_intText "perPage" hShort

end SearchRequest

/-- The categories, with nothing declared. -/
def plainCategories : Resource := Resource.ofModel Sample.category

/-- A page size of one and 330 zeros. -/
def hugeSize : Nat := Number.pow10 330

theorem hugeSize_pos : 0 < hugeSize := Number.pow10_pos 330

/-- A request for the first category, on a page of that size. -/
def firstOfHugePage : SearchRequest :=
  { SearchRequest.empty with perPage? := some hugeSize, limit? := some 1 }

theorem ofPairs_firstOfHugePage :
    SearchRequest.ofPairs none [("perPage", Text.intText hugeSize), ("limit", "1")] =
      .ok firstOfHugePage := by
  have hParams : Param.ofPairs [("perPage", Text.intText hugeSize), ("limit", "1")] =
      [("perPage", .text (Text.intText hugeSize)), ("limit", .text "1")] := by rfl
  have hSize : SearchRequest.perPageParam
      [("perPage", .text (Text.intText hugeSize)), ("limit", .text "1")] = .ok (some hugeSize) :=
    SearchRequest.perPageParam_intText (by rfl) (by decide +kernel)
      (Int.natCast_pos.mpr hugeSize_pos)
  rw [SearchRequest.ofPairs, hParams, SearchRequest.ofParams, hSize]
  rfl

theorem accepts_firstOfHugePage :
    plainCategories.Accepts Sample.shop firstOfHugePage (Selection.ofModel Sample.category "sqlite")
      (Selection.ofModel Sample.category "sqlite") (some 1) hugeSize where
  filters := rfl
  order := rfl
  uncapped := rfl
  answered := .ofModel _ _ _
  rows_lt := by decide
  limit := rfl
  limit_pos := by decide
  size := rfl
  size_pos := hugeSize_pos

theorem exists_record_of_category :
    ∀ row ∈ Sample.categories, ∃ v, Sample.shop.serialize Sample.category "to_dict" row = .ok v :=
  exists_eq_ok_of_all rfl

/-- **A page with rows can be one of no pages.** The parameters of a request are read and accepted,
one of four categories is shown, and the account says that there are no pages. -/
theorem hugePage_disagrees : ∃ q p i,
    SearchRequest.ofPairs none [("perPage", Text.intText hugeSize), ("limit", "1")] = .ok q ∧
      q.skipPagination = false ∧ plainCategories.searchPage Sample.shop q = .ok p ∧
      p.rows.length = 1 ∧ p.info? = some i ∧ i = ⟨1, hugeSize, 0, 4⟩ ∧ ¬ i.Agrees p.rows := by
  have hMatching :
      ((Selection.ofModel Sample.category "sqlite").matching Sample.shop).length = 4 := by
    decide
  have hReach : Selection.reach (some 1) ((0 + 1) * hugeSize) = 1 :=
    Nat.min_eq_right (by rw [Nat.zero_add, Nat.one_mul]; exact hugeSize_pos)
  have hPage := accepts_firstOfHugePage.answered.page_withCap (some 1) hugeSize 0
  rw [hReach, if_neg (by omega), if_pos (by omega)] at hPage
  have hRecords : ∀ row ∈ (((Selection.ofModel Sample.category "sqlite").ordered Sample.shop).take
      1).drop (0 * hugeSize), ∃ v, Sample.shop.serialize Sample.category "to_dict" row = .ok v := by
    intro row hRow
    have hOrdered := List.mem_of_mem_take (List.mem_of_mem_drop hRow)
    exact exists_record_of_category row (Selection.mem_rows_of_mem_ordered hOrdered)
  have hPages : Paginator.pagesCount ((Selection.ofModel Sample.category "sqlite").matching
      Sample.shop).length hugeSize = .ok 0 := by decide +kernel
  obtain ⟨p, hSearch, hLength, hInfo⟩ :=
    accepts_firstOfHugePage.exists_page hPages hPage hRecords
  rw [hMatching] at hInfo
  have hOne : p.rows.length = 1 := by
    rw [hLength, Nat.zero_mul, List.drop_zero, List.length_take,
      accepts_firstOfHugePage.length_ordered, hMatching]
    rfl
  refine ⟨firstOfHugePage, p, _, ofPairs_firstOfHugePage, rfl, hSearch, hOne, hInfo, rfl, ?_⟩
  intro hAgrees
  exact absurd (hAgrees.hasPages.mp rfl) (by decide)

end Winnow
