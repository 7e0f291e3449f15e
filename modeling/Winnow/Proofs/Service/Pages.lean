import Winnow.Proofs.Query.Paginator
import Winnow.Proofs.Store.Answer
import Winnow.Proofs.Store.Ordering
import Winnow.Sample.Shop
import Winnow.Service.Search

/-!
# Winnow.Proofs.Service.Pages — the pages of a search

Three requests of one search are compared: for all rows at once, for one page, and for all rows
without the cap. They filter and sort alike, so they read windows of one list.

* `pages_partition_scan`: the pages one after the other are the rows at once, and every page is what
  lies between its places in the rows without the cap, up to the cap. All pages tell the same number
  of rows, which neither the cap nor the order nor the page has a part in.
* `page_beyond_last`: a page that begins after the last row is empty, with its account, if the cap
  ends before it or its first place fits into 64 bits. Otherwise it is refused.

What is asked of a selection is that the store answers it at all (`Selection.IsAnswered`). A store
tells the number of rows in 64 bits, so tables have no more rows than that.
-/

namespace Winnow

/-! ## Pages of a list -/

/-- The places of a page: from `i * perPage` up to the end of the page or the cap. -/
def pageOf {α : Type} (cap? : Option Nat) (perPage i : Nat) (rows : List α) : List α :=
  (rows.take (Selection.reach cap? ((i + 1) * perPage))).drop (i * perPage)

theorem length_pageOf_le {α : Type} (cap? : Option Nat) (perPage i : Nat) (rows : List α) :
    (pageOf cap? perPage i rows).length ≤ perPage := by
  have hEnd := Selection.reach_le cap? ((i + 1) * perPage)
  rw [Nat.succ_mul] at hEnd
  rw [pageOf, List.length_drop, List.length_take, Nat.succ_mul]
  omega

/-- The first pages, one after the other, are the rows up to where the last of them ends. -/
theorem flatten_pageOf {α : Type} (cap? : Option Nat) (perPage n : Nat) (rows : List α) :
    ((List.range n).map fun i => pageOf cap? perPage i rows).flatten =
      rows.take (Selection.reach cap? (n * perPage)) := by
  induction n with
  | zero =>
    have hZero : Selection.reach cap? (0 * perPage) = 0 := by
      have hLe := Selection.reach_le cap? (0 * perPage)
      omega
    rw [hZero]
    rfl
  | succ n ih =>
    rw [List.range_succ, List.map_append, List.flatten_append, ih, List.map_singleton,
      List.flatten_singleton]
    -- up to here is a part of up to there, and nothing is between the cap and a later page
    have hTake : rows.take (Selection.reach cap? (n * perPage)) =
        (rows.take (Selection.reach cap? ((n + 1) * perPage))).take (n * perPage) := by
      rw [List.take_take]
      congr 1
      cases cap? with
      | none => simp only [Selection.reach]; rw [Nat.succ_mul]; omega
      | some cap => simp only [Selection.reach]; rw [Nat.succ_mul]; omega
    rw [hTake, pageOf, List.take_append_drop]

/-- Under a cap, the rows up to a place are those of the rows that the cap leaves. -/
theorem pageOf_take_reach {α : Type} (cap? : Option Nat) (perPage i : Nat) (rows : List α) :
    pageOf cap? perPage i (rows.take (Selection.reach cap? rows.length)) =
      pageOf cap? perPage i rows := by
  rw [pageOf, pageOf, List.take_take]
  congr 1
  rw [List.take_eq_take_iff]
  cases cap? with
  | none => simp only [Selection.reach]; omega
  | some cap => simp only [Selection.reach]; omega

/-! ## Three requests of one search -/

namespace SearchRequest

/-- The request for all rows at once. -/
def atOnce (q : SearchRequest) : SearchRequest := { q with skipPagination := true }

/-- The request for the page that has `i` pages before it. -/
def onPage (q : SearchRequest) (i : Nat) : SearchRequest :=
  { q with page := i + 1, skipPagination := false }

end SearchRequest

namespace Resource

variable {db : Database} {r : Resource} {q : SearchRequest} {filtered s : Selection}
  {limit? : Option Nat} {perPage : Nat}

theorem model_of_filtered {scope : List Step} (h : r.filtered db scope q = .ok s) :
    s.model = r.model := by
  obtain ⟨t, hScope, hFilters⟩ := bind_eq_ok_iff.mp h
  exact (Selection.model_of_callAll? hFilters).trans (Selection.model_of_callAll? hScope)

/-- A request caps a selection that has no cap. -/
theorem callAll?_capCalls (hUncapped : s.cap = none) (hLimit : q.limit? = limit?.map Int.ofNat)
    (hPositive : ∀ c ∈ limit?, 1 ≤ c) :
    s.callAll? db.schema (capCalls q) = .ok (s.withCap limit?) := by
  cases limit? with
  | none =>
    have hSame : s.withCap none = s := by rw [Selection.withCap, Option.map_none, ← hUncapped]
    rw [capCalls, hLimit, hSame]
    rfl
  | some c =>
    have hCalls : (Value.int c).capCalls = [.limit c] :=
      if_pos (Int.natCast_pos.mpr (hPositive c rfl))
    have hOne : capCalls q = [.limit c] := by
      rw [capCalls, hLimit]
      exact hCalls
    rw [hOne]
    rfl

/-- A search that is accepted: its filters and its order are taken and set no cap, the store answers
what they select, and the cap and the page size that the request asks for are positive. Without a
page size in the request, that of the resource counts. Rows are numbered in 64 bits. -/
structure Accepts (r : Resource) (db : Database) (q : SearchRequest) (filtered s : Selection)
    (limit? : Option Nat) (perPage : Nat) : Prop where
  filters : r.filtered db r.searchScope q = .ok filtered
  order : filtered.callAll? db.schema (Value.text q.sort).sortCalls = .ok s
  uncapped : s.cap = none
  answered : s.IsAnswered db
  rows_lt : (db.rows r.model).length < 2 ^ 63
  limit : q.limit? = limit?.map Int.ofNat
  limit_pos : ∀ c ∈ limit?, 1 ≤ c
  size : (q.perPage?.map Value.int).getD r.perPage = .int perPage
  size_pos : 1 ≤ perPage

namespace Accepts

theorem model_eq (h : r.Accepts db q filtered s limit? perPage) : s.model = r.model :=
  (Selection.model_of_callAll? h.order).trans (model_of_filtered h.filters)

theorem selection_eq (h : r.Accepts db q filtered s limit? perPage) :
    r.selection db r.searchScope q = .ok (s.withCap limit?) := by
  rw [selection, h.filters]
  refine bind_eq_ok_iff.mpr ⟨filtered, rfl, bind_eq_ok_iff.mpr ⟨s, h.order, ?_⟩⟩
  exact callAll?_capCalls h.uncapped h.limit h.limit_pos

/-- The rows that match are those of the filters. -/
theorem matching_eq (h : r.Accepts db q filtered s limit? perPage) :
    s.matching db = filtered.matching db :=
  Selection.matching_of_sortCalls h.order

theorem length_matching_lt (h : r.Accepts db q filtered s limit? perPage) :
    (s.matching db).length < 2 ^ 63 := by
  have hLe : (s.matching db).length ≤ (db.rows s.model).length := List.length_filter_le _ _
  rw [h.model_eq] at hLe
  exact Nat.lt_of_le_of_lt hLe h.rows_lt

theorem length_ordered (h : r.Accepts db q filtered s limit? perPage) :
    (s.ordered db).length = (filtered.matching db).length := by
  rw [Selection.ordered, Selection.inOrder, List.length_mergeSort, h.matching_eq]

/-- **All rows at once** are the values of the first rows, up to the cap. -/
theorem searchPage_atOnce (h : r.Accepts db q filtered s limit? perPage)
    (hLimit : ∀ c ∈ limit?, c < 2 ^ 63) :
    r.searchPage db q.atOnce =
      (((s.ordered db).take (Selection.reach limit? (s.ordered db).length)).mapM
        (db.serialize r.model r.serializer)).map fun rows => ⟨rows, none⟩ := by
  have hSelection : r.selection db r.searchScope q.atOnce = .ok (s.withCap limit?) := h.selection_eq
  have hModel : (s.withCap limit?).model = r.model := h.model_eq
  rw [searchPage, hSelection]
  refine (Paginator.result_full rfl).trans ?_
  simp only [Paginator.serializeAll, Selection.source, h.answered.all_withCap hLimit, hModel]
  rfl

/-- **One page** is read from the selection under the cap, with an account of it. -/
theorem searchPage_onPage (h : r.Accepts db q filtered s limit? perPage) {pages : Int}
    (hPages : Paginator.pagesCount (filtered.matching db).length perPage = .ok pages) (i : Nat) :
    r.searchPage db (q.onPage i) =
      ((s.withCap limit?).page db perPage (i + 1) >>= fun rows =>
        rows.mapM (db.serialize r.model r.serializer)).map
          fun rows => ⟨rows, some ⟨i + 1, perPage, pages, (filtered.matching db).length⟩⟩ := by
  have hSelection : r.selection db r.searchScope (q.onPage i) = .ok (s.withCap limit?) :=
    h.selection_eq
  have hModel : (s.withCap limit?).model = r.model := h.model_eq
  have hCount : ((s.withCap limit?).source db).count =
      .ok ((filtered.matching db).length : Nat) := by
    rw [Selection.source, h.answered.count_withCap limit?, h.matching_eq]
    rfl
  have hResult := Paginator.result_page (i := i)
    (r := ⟨(q.perPage?.map Value.int).getD r.perPage, .int (i + 1), r.serializer, false⟩) rfl h.size
    h.size_pos rfl hCount hPages
  rw [searchPage, hSelection]
  refine hResult.trans ?_
  simp only [Paginator.serializeAll, Selection.source, hModel]

theorem exists_pagesCount (h : r.Accepts db q filtered s limit? perPage) :
    ∃ pages, Paginator.pagesCount (filtered.matching db).length perPage = .ok pages :=
  Paginator.exists_pagesCount perPage (h.matching_eq ▸ h.length_matching_lt)

end Accepts

end Resource

/-! ## Main statements -/

section Pages

variable {db : Database} {r : Resource} {q : SearchRequest} {filtered s : Selection}
  {limit? : Option Nat} {perPage : Nat}

/-- A page whose end fits into 64 bits is answered. -/
theorem Selection.IsAnswered.page_eq_pageOf (h : s.IsAnswered db) {i : Nat}
    (hFits : (i + 1) * perPage < 2 ^ 63) :
    (s.withCap limit?).page db perPage (i + 1) = .ok (pageOf limit? perPage i (s.ordered db)) := by
  have hEnd := Selection.reach_le limit? ((i + 1) * perPage)
  have hOffset : i * perPage ≤ (i + 1) * perPage := Nat.mul_le_mul_right perPage (Nat.le_succ i)
  rw [h.page_withCap]
  by_cases hNothing : Selection.reach limit? ((i + 1) * perPage) ≤ i * perPage
  · have hEmpty : pageOf limit? perPage i (s.ordered db) = [] := by
      rw [pageOf, List.drop_eq_nil_iff, List.length_take]
      omega
    rw [if_pos hNothing, hEmpty]
  · rw [if_neg hNothing, if_pos ⟨by omega, by omega⟩]
    rfl

/-- The values of a page of rows are the page of their values. -/
theorem mapM_pageOf {ε α β : Type} {f : α → Except ε β} {rows : List α} {values : List β}
    (h : rows.mapM f = .ok values) (cap? : Option Nat) (perPage i : Nat) :
    (pageOf cap? perPage i rows).mapM f = .ok (pageOf cap? perPage i values) := by
  rw [mapM_eq_ok_iff] at h ⊢
  exact List.forall₂_drop _ (List.forall₂_take _ h)

/-- **The pages of a search partition its rows.** Let a search be accepted with a cap of 64 bits, if
any, and let it show all its rows at once.

The rows without the cap are as many as match the filters. Every page that ends within 64 bits is
shown; it has at most `perPage` rows, which are the rows from its first place up to its end or the
cap; and it tells how many rows match the filters. As many first pages as reach the end of the rows,
or the cap, are all rows at once, one page after the other. -/
theorem pages_partition_scan (db : Database) (r : Resource) (q : SearchRequest)
    (filtered s : Selection) (limit? : Option Nat) (perPage : Nat) (scan : Paginator)
    (h : r.Accepts db q filtered s limit? perPage) (hLimit : ∀ c ∈ limit?, c < 2 ^ 63)
    (hScan : r.searchPage db q.atOnce = .ok scan) :
    ∃ unlimited pages, s.all db = .ok unlimited ∧
      unlimited.length = (filtered.matching db).length ∧
      (∀ i, (i + 1) * perPage < 2 ^ 63 → ∃ rows,
        r.searchPage db (q.onPage i) =
          .ok ⟨rows, some ⟨i + 1, perPage, pages, (filtered.matching db).length⟩⟩ ∧
        rows.length ≤ perPage ∧
        (pageOf limit? perPage i unlimited).mapM (db.serialize r.model r.serializer) = .ok rows) ∧
      ∀ n, Selection.reach limit? (filtered.matching db).length ≤ n * perPage →
        n * perPage < 2 ^ 63 →
        ∃ parts, (List.range n).mapM (fun i => r.searchPage db (q.onPage i)) = .ok parts ∧
          (parts.map (·.rows)).flatten = scan.rows := by
  obtain ⟨pages, hPages⟩ := h.exists_pagesCount
  rw [h.searchPage_atOnce hLimit] at hScan
  -- the values of the rows under the cap
  obtain ⟨values, hValues, rfl⟩ : ∃ values,
      ((s.ordered db).take (Selection.reach limit? (s.ordered db).length)).mapM
        (db.serialize r.model r.serializer) = .ok values ∧ ⟨values, none⟩ = scan := by
    revert hScan
    cases ((s.ordered db).take (Selection.reach limit? (s.ordered db).length)).mapM
        (db.serialize r.model r.serializer) with
    | error e => intro hScan; cases hScan
    | ok values => exact fun hScan => ⟨values, rfl, Except.ok.inj hScan⟩
  have hPageValues (i : Nat) : (pageOf limit? perPage i (s.ordered db)).mapM
      (db.serialize r.model r.serializer) = .ok (pageOf limit? perPage i values) := by
    rw [← pageOf_take_reach]
    exact mapM_pageOf hValues limit? perPage i
  have hPage (i : Nat) (hFits : (i + 1) * perPage < 2 ^ 63) : r.searchPage db (q.onPage i) =
      .ok ⟨pageOf limit? perPage i values,
        some ⟨i + 1, perPage, pages, (filtered.matching db).length⟩⟩ := by
    rw [h.searchPage_onPage hPages i, h.answered.page_eq_pageOf hFits]
    exact congrArg (Except.map _) (hPageValues i)
  refine ⟨s.ordered db, pages, (Selection.all_eq_ok_iff h.uncapped).mpr ⟨h.answered.check_rows, rfl⟩,
    h.length_ordered, ?_, ?_⟩
  · intro i hFits
    exact ⟨_, hPage i hFits, length_pageOf_le limit? perPage i values, hPageValues i⟩
  · intro n hReach hFits
    refine ⟨_, mapM_eq_ok_map (g := fun i => ⟨pageOf limit? perPage i values,
      some ⟨i + 1, perPage, pages, (filtered.matching db).length⟩⟩) ?_, ?_⟩
    · intro i hi
      have hLast : (i + 1) * perPage ≤ n * perPage :=
        Nat.mul_le_mul_right perPage (List.mem_range.mp hi)
      exact hPage i (Nat.lt_of_le_of_lt hLast hFits)
    · rw [List.map_map]
      refine (flatten_pageOf limit? perPage n values).trans (List.take_of_length_le ?_)
      -- there are no more values than rows, nor more than the cap
      have hLength := (mapM_eq_ok_iff.mp hValues).length_eq
      rw [List.length_take, h.length_ordered] at hLength
      cases limit? with
      | none => simp only [Selection.reach] at *; omega
      | some c => simp only [Selection.reach] at *; omega

/-! ## A sample -/

/-- The products, with nothing declared. -/
def plainProducts : Resource := Resource.ofModel Sample.product

/-- A request for the active products, the dearest first, two on a page. -/
def dearProducts (limit? : Option Nat) : SearchRequest :=
  { SearchRequest.empty with
    filters := [(.text "status", .mapping [(.text "eq", .text "active")])]
    sort := "-price"
    perPage? := some 2
    limit? := limit?.map Int.ofNat }

/-- The active products. -/
def activeSelection : Selection :=
  (Selection.ofModel Sample.product "sqlite").gather
    [.compare ⟨"status", .text⟩ .equal (.text "active")]

/-- Five products are active. -/
theorem length_activeSelection : (activeSelection.matching Sample.shop).length = 5 := by decide

theorem isAnswered_activeSelection : activeSelection.IsAnswered Sample.shop :=
  .of_isFaultless (by decide) (by decide) (by decide)

/-- The active products, the dearest first. -/
def dearestFirst : Selection := { activeSelection with order := [⟨"price", true⟩] }

theorem accepts_dearProducts (limit? : Option Nat) (hPositive : ∀ c ∈ limit?, 1 ≤ c) :
    plainProducts.Accepts Sample.shop (dearProducts limit?) activeSelection dearestFirst limit? 2 where
  filters := rfl
  order := by
    have hClauses : SortClause.ofValue (.text "-price") = [⟨"price", true⟩] := by decide
    have hCalls : (Value.text (dearProducts limit?).sort).sortCalls = [.orderBy "price" "DESC"] :=
      congrArg (List.map SortClause.call) hClauses
    rw [hCalls]
    rfl
  uncapped := rfl
  answered := isAnswered_activeSelection.withOrder (by decide)
  rows_lt := by decide
  limit := rfl
  limit_pos := hPositive
  size := rfl
  size_pos := by decide

/-- All products of the shop have records. -/
theorem exists_record_of_product :
    ∀ row ∈ Sample.products, ∃ v, Sample.shop.serialize Sample.product "to_dict" row = .ok v :=
  exists_eq_ok_of_all rfl

/-- The three dearest of the five active products, on two pages. -/
theorem pages_partition_scan_dearProducts :
    ∃ scan parts rows pages,
      plainProducts.searchPage Sample.shop (dearProducts (some 3)).atOnce = .ok scan ∧
      (List.range 2).mapM (fun i =>
        plainProducts.searchPage Sample.shop ((dearProducts (some 3)).onPage i)) = .ok parts ∧
      (parts.map (·.rows)).flatten = scan.rows ∧ scan.rows.length = 3 ∧
      plainProducts.searchPage Sample.shop ((dearProducts (some 3)).onPage 1) =
        .ok ⟨rows, some ⟨2, 2, pages, 5⟩⟩ := by
  have hAccepts := accepts_dearProducts (some 3) (by decide)
  have hShown : ∀ row ∈ (dearestFirst.ordered Sample.shop).take
      (Selection.reach (some 3) (dearestFirst.ordered Sample.shop).length),
      ∃ v, Sample.shop.serialize Sample.product "to_dict" row = .ok v := by
    intro row hRow
    have hOrdered := List.mem_of_mem_take hRow
    exact exists_record_of_product row (Selection.mem_rows_of_mem_ordered hOrdered)
  obtain ⟨values, hValues⟩ := exists_mapM_eq_ok hShown
  have hScan : plainProducts.searchPage Sample.shop (dearProducts (some 3)).atOnce =
      .ok ⟨values, none⟩ :=
    (hAccepts.searchPage_atOnce (by decide)).trans (congrArg (Except.map _) hValues)
  have hLength : values.length = 3 := by
    rw [← (mapM_eq_ok_iff.mp hValues).length_eq, List.length_take, hAccepts.length_ordered,
      length_activeSelection]
    rfl
  obtain ⟨_, pages, -, -, hPages, hParts⟩ := pages_partition_scan Sample.shop plainProducts _ _ _ _ _ _
    hAccepts (by decide) hScan
  obtain ⟨rows, hPage, -, -⟩ := hPages 1 (by decide)
  obtain ⟨parts, hParts, hRows⟩ := hParts 2 (by rw [length_activeSelection]; decide) (by decide)
  rw [length_activeSelection] at hPage
  exact ⟨_, parts, rows, pages, hScan, hParts, hRows, hLength, hPage⟩

/-- A page that begins after the last row is empty if there is nothing to ask for, or if its first
place fits into 64 bits. -/
theorem Selection.IsAnswered.page_eq_nil (h : s.IsAnswered db) {i : Nat} (hSize : perPage < 2 ^ 63)
    (hBeyond : (s.ordered db).length ≤ i * perPage)
    (hTaken : (∃ c ∈ limit?, c ≤ i * perPage) ∨ i * perPage < 2 ^ 63) :
    (s.withCap limit?).page db perPage (i + 1) = .ok [] := by
  have hEnd := Selection.reach_le limit? ((i + 1) * perPage)
  rw [Nat.succ_mul] at hEnd
  rw [h.page_withCap]
  by_cases hNothing : Selection.reach limit? ((i + 1) * perPage) ≤ i * perPage
  · rw [if_pos hNothing]
  · have hFits : i * perPage < 2 ^ 63 := by
      rcases hTaken with ⟨c, hCap, hLe⟩ | hFits
      · -- the cap would have ended before the page
        obtain rfl : limit? = some c := hCap
        exact absurd (Nat.le_trans (Nat.min_le_right _ c) hLe) hNothing
      · exact hFits
    rw [if_neg hNothing, if_pos ⟨by rw [Nat.succ_mul]; omega, hFits⟩, List.drop_eq_nil_of_le]
    rw [List.length_take]
    omega

/-- A page whose first place does not fit into 64 bits is refused, unless the cap ends before it. -/
theorem Selection.IsAnswered.page_eq_overflow (h : s.IsAnswered db) {i : Nat} (hPositive : 1 ≤ perPage)
    (hRefused : ¬ ((∃ c ∈ limit?, c ≤ i * perPage) ∨ i * perPage < 2 ^ 63)) :
    (s.withCap limit?).page db perPage (i + 1) = .error .overflow := by
  obtain ⟨hCap, hFits⟩ := not_or.mp hRefused
  have hSomething : ¬ Selection.reach limit? ((i + 1) * perPage) ≤ i * perPage := by
    rw [Nat.succ_mul]
    cases limit? with
    | none => simp only [Selection.reach]; omega
    | some c =>
      have hAfter : ¬ c ≤ i * perPage := fun hLe => hCap ⟨c, rfl, hLe⟩
      simp only [Selection.reach]
      omega
  rw [h.page_withCap, if_neg hSomething, if_neg fun hBoth => hFits hBoth.2]

/-- **A page beyond the last.** Let a search be accepted, with a page size of 64 bits, and let a page
begin after as many rows as match the filters. If the cap ends before it, or its first place fits
into 64 bits, the page is empty and has an account like any other; if neither, it is refused. -/
theorem page_beyond_last (db : Database) (r : Resource) (q : SearchRequest)
    (filtered s : Selection) (limit? : Option Nat) (perPage i : Nat)
    (h : r.Accepts db q filtered s limit? perPage) (hSize : perPage < 2 ^ 63)
    (hBeyond : (filtered.matching db).length ≤ i * perPage) :
    ((∃ c ∈ limit?, c ≤ i * perPage) ∨ i * perPage < 2 ^ 63 → ∃ pages,
      r.searchPage db (q.onPage i) =
        .ok ⟨[], some ⟨i + 1, perPage, pages, (filtered.matching db).length⟩⟩) ∧
    (¬ ((∃ c ∈ limit?, c ≤ i * perPage) ∨ i * perPage < 2 ^ 63) →
      r.searchPage db (q.onPage i) = .error .overflow) := by
  obtain ⟨pages, hPages⟩ := h.exists_pagesCount
  rw [h.searchPage_onPage hPages i]
  refine ⟨?_, ?_⟩
  · intro hTaken
    rw [← h.length_ordered] at hBeyond
    rw [h.answered.page_eq_nil hSize hBeyond hTaken]
    exact ⟨pages, rfl⟩
  · intro hRefused
    rw [h.answered.page_eq_overflow h.size_pos hRefused]
    rfl

/-- Without a cap, the fourth page of two is empty, and one too far away is refused; under a cap it is
not even asked for. -/
theorem page_beyond_last_dearProducts :
    (∃ pages, plainProducts.searchPage Sample.shop ((dearProducts none).onPage 3) =
      .ok ⟨[], some ⟨4, 2, pages, 5⟩⟩) ∧
    plainProducts.searchPage Sample.shop ((dearProducts none).onPage (2 ^ 62)) = .error .overflow ∧
    ∃ pages, plainProducts.searchPage Sample.shop ((dearProducts (some 3)).onPage (2 ^ 62)) =
      .ok ⟨[], some ⟨2 ^ 62 + 1, 2, pages, 5⟩⟩ := by
  have hFree := accepts_dearProducts none (by decide)
  have hCapped := accepts_dearProducts (some 3) (by decide)
  have hNear := page_beyond_last Sample.shop plainProducts _ _ _ none 2 3 hFree (by decide)
    (by rw [length_activeSelection]; decide)
  have hFar := page_beyond_last Sample.shop plainProducts _ _ _ none 2 (2 ^ 62) hFree (by decide)
    (by rw [length_activeSelection]; decide)
  have hUnder := page_beyond_last Sample.shop plainProducts _ _ _ (some 3) 2 (2 ^ 62) hCapped
    (by decide) (by rw [length_activeSelection]; decide)
  rw [length_activeSelection] at hNear hUnder
  exact ⟨hNear.1 (Or.inr (by decide)), hFar.2 (by decide), hUnder.1 (Or.inl ⟨3, rfl, by decide⟩)⟩

/-- The request that asks for one product on a page, and a page very far away. -/
def distantProducts : SearchRequest :=
  { SearchRequest.empty with perPage? := some 1, page := 9223372036854775809 }

/-- **A page beyond the last can be an error.** The parameters of a request are read and accepted, its
page begins after all nine products, and the search is refused. -/
theorem distant_page_is_refused :
    SearchRequest.ofPairs none [("perPage", "1"), ("page", "9223372036854775809")] =
      .ok distantProducts ∧
    plainProducts.Accepts Sample.shop distantProducts (Selection.ofModel Sample.product "sqlite")
      (Selection.ofModel Sample.product "sqlite") none 1 ∧
    ((Selection.ofModel Sample.product "sqlite").matching Sample.shop).length = 9 ∧
    9 ≤ (distantProducts.page - 1) * 1 ∧
    plainProducts.searchPage Sample.shop distantProducts = .error .overflow := by
  have hAccepts : plainProducts.Accepts Sample.shop distantProducts
      (Selection.ofModel Sample.product "sqlite") (Selection.ofModel Sample.product "sqlite") none 1 :=
    { filters := rfl
      order := rfl
      uncapped := rfl
      answered := .ofModel _ _ _
      rows_lt := by decide
      limit := rfl
      limit_pos := by decide
      size := rfl
      size_pos := by decide }
  refine ⟨rfl, hAccepts, by decide +kernel, by decide, ?_⟩
  obtain ⟨pages, hPages⟩ := hAccepts.exists_pagesCount
  have hRefused : ((Selection.ofModel Sample.product "sqlite").withCap none).page Sample.shop
      (1 : Nat) ((2 ^ 63 : Nat) + 1) = .error .overflow :=
    hAccepts.answered.page_eq_overflow hAccepts.size_pos (by decide)
  have hPage : distantProducts.onPage (2 ^ 63) = distantProducts := by
    have hNumber : ((2 ^ 63 : Nat) : Int) + 1 = 9223372036854775809 := by norm_num
    rw [SearchRequest.onPage, hNumber]
    rfl
  rw [← hPage, hAccepts.searchPage_onPage hPages (2 ^ 63), hRefused]
  rfl

end Pages

end Winnow
