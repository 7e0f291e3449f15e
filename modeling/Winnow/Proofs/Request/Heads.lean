import Winnow.Proofs.Request.RoundTrip
import Winnow.Proofs.Store.Gathering
import Winnow.Request.Search

/-!
# Winnow.Proofs.Request.Heads — parameters do not interfere

The head of a key is the first name on the way to its place, be the rest of the key well formed or
not. All pairs come into one tree, yet what stands in it under a name is what the pairs with this
head alone leave there (`Param.get?_ofPairs`).

`SearchRequest.parameters_do_not_interfere`: a request and the error of a refused one come from the
pairs that are headed by one of seven names, and each part of a request from those headed by its own.
-/

namespace Winnow

/-! ## Heads -/

namespace BracketKey

theorem segments_ne_nil (key : String) : segments key ≠ [] := by
  rw [segments]
  split
  · exact List.cons_ne_nil _ _
  · exact List.cons_ne_nil _ _

/-- The first name of a key. -/
def head (key : String) : String := (segments key).head (segments_ne_nil key)

/-- The way to a place begins with the head of its key. -/
theorem exists_path_read (key : String) : ∃ path, (read key).path = head key :: path := by
  have hSegments := List.cons_head_tail (segments_ne_nil key)
  rw [read, ← hSegments, path_ofSegments]
  exact ⟨_, rfl⟩

/-- From below any other name than its head, the place of a key is not seen. -/
theorem below?_read_of_ne {name key : String} (h : head key ≠ name) :
    below? name (read key) = none := by
  obtain ⟨path, hPath⟩ := exists_path_read key
  refine Option.eq_none_iff_forall_ne_some.mpr fun seen hSeen => h ?_
  rw [(below?_eq_some_iff _ _ _).mp hSeen] at hPath
  exact (List.cons.inj hPath).1.symm

end BracketKey

open BracketKey

namespace Param

/-- The pairs whose keys are headed by one of these names. -/
def headed (names : List String) (pairs : List (String × String)) : List (String × String) :=
  pairs.filter fun pair => names.contains (head pair.1)

/-- Pairs that agree in several heads agree in each of them. -/
theorem headed_eq_of_mem {name : String} {names : List String} {pairs others : List (String × String)}
    (hName : name ∈ names) (h : headed names pairs = headed names others) :
    headed [name] pairs = headed [name] others := by
  have hFewer (ps : List (String × String)) : headed [name] (headed names ps) = headed [name] ps := by
    rw [headed, headed, List.filter_filter]
    refine List.filter_congr fun pair _ => Bool.and_eq_left_iff_imp.mpr fun hHead => ?_
    rw [List.contains_iff_mem, List.mem_singleton] at hHead
    exact List.contains_iff_mem.mpr (hHead ▸ hName)
  rw [← hFewer pairs, h, hFewer]

/-- Of all pairs, those with its head are the ones that say something below a name. -/
theorem below_headed (name : String) (pairs : List (String × String)) :
    below name ((headed [name] pairs).map fun pair => (read pair.1, pair.2)) =
      below name (pairs.map fun pair => (read pair.1, pair.2)) := by
  rw [below, below, headed, List.filterMap_map, List.filterMap_map, List.filterMap_filter]
  refine List.filterMap_congr fun pair _ => ?_
  by_cases hHead : head pair.1 = name
  · simp [hHead]
  · simp [hHead, below?_read_of_ne hHead]

/-- **What stands under a name** comes from the pairs that are headed by it. -/
theorem get?_ofPairs (name : String) (pairs : List (String × String)) :
    get? name (ofPairs pairs) = get? name (ofPairs (headed [name] pairs)) := by
  rw [ofPairs_eq_storeAll, ofPairs_eq_storeAll, get?_storeAll, get?_storeAll, below_headed]

theorem get?_ofPairs_eq_of_headed_eq {name : String} {pairs others : List (String × String)}
    (h : headed [name] pairs = headed [name] others) :
    get? name (ofPairs pairs) = get? name (ofPairs others) := by
  rw [get?_ofPairs name pairs, h, ← get?_ofPairs]

end Param

open Param

namespace SearchRequest

/-! ## Parts of a request -/

/-- The names of the parameters that a request is read from. -/
def parameters (termField? : Option String) : List String :=
  ["filter", termKeyOf termField?, "perPage", "page", "sort", "skipPagination", "limit"]

/-- A request is read from a tree part by part. -/
theorem ofParams_eq_ok_iff {termKey : String} {params : List (String × Param)} {q : SearchRequest} :
    ofParams termKey params = .ok q ↔
      q.filters = filterMap termKey params ∧ q.sort = sortParam params ∧
        perPageParam params = .ok q.perPage? ∧ pageParam params = .ok q.page ∧
        q.skipPagination = skipParam params ∧
        intParam "limit" (get? "limit" params) = .ok q.limit? := by
  constructor
  · intro h
    obtain ⟨perPage?, hPerPage, h⟩ := bind_eq_ok_iff.mp h
    obtain ⟨page, hPage, h⟩ := bind_eq_ok_iff.mp h
    obtain ⟨limit?, hLimit, h⟩ := bind_eq_ok_iff.mp h
    obtain rfl := Except.ok.inj h
    exact ⟨rfl, rfl, hPerPage, hPage, rfl, hLimit⟩
  · rintro ⟨hFilters, hSort, hPerPage, hPage, hSkip, hLimit⟩
    rw [ofParams, hPerPage, hPage, hLimit, ← hFilters, ← hSort, ← hSkip]
    rfl

/-- **Parameters do not interfere.** Two lists of pairs spell the same request, or are refused with
the same error, if they agree in the pairs that are headed by the names of its parameters; the others
may stand anywhere and have any keys. And each part of a request comes from the pairs that are headed
by its own names, whatever the pairs of the other parts are. -/
theorem parameters_do_not_interfere (termField? : Option String)
    (pairs others : List (String × String)) :
    (headed (parameters termField?) pairs = headed (parameters termField?) others →
      SearchRequest.ofPairs termField? pairs = SearchRequest.ofPairs termField? others) ∧
    ∀ q r, SearchRequest.ofPairs termField? pairs = .ok q →
      SearchRequest.ofPairs termField? others = .ok r →
      (headed ["filter", termKeyOf termField?] pairs = headed ["filter", termKeyOf termField?] others →
        q.filters = r.filters) ∧
      (headed ["sort"] pairs = headed ["sort"] others → q.sort = r.sort) ∧
      (headed ["perPage"] pairs = headed ["perPage"] others → q.perPage? = r.perPage?) ∧
      (headed ["page"] pairs = headed ["page"] others → q.page = r.page) ∧
      (headed ["skipPagination"] pairs = headed ["skipPagination"] others →
        q.skipPagination = r.skipPagination) ∧
      (headed ["limit"] pairs = headed ["limit"] others → q.limit? = r.limit?) := by
  refine ⟨fun hHeaded => ?_, fun q r hq hr => ?_⟩
  · have hGet (name : String) (hName : name ∈ parameters termField?) :
        get? name (Param.ofPairs pairs) = get? name (Param.ofPairs others) :=
      get?_ofPairs_eq_of_headed_eq (headed_eq_of_mem hName hHeaded)
    simp only [parameters, List.forall_mem_cons] at hGet
    obtain ⟨hFilter, hTerm, hPerPage, hPage, hSort, hSkip, hLimit, -⟩ := hGet
    simp only [SearchRequest.ofPairs, ofParams, filterMap, sortParam, perPageParam, pageParam,
      skipParam, hFilter, hTerm, hPerPage, hPage, hSort, hSkip, hLimit]
  · obtain ⟨hFilters, hSort, hPerPage, hPage, hSkip, hLimit⟩ := ofParams_eq_ok_iff.mp hq
    obtain ⟨hFilters', hSort', hPerPage', hPage', hSkip', hLimit'⟩ := ofParams_eq_ok_iff.mp hr
    refine ⟨fun h => ?_, fun h => ?_, fun h => ?_, fun h => ?_, fun h => ?_, fun h => ?_⟩
    · have hFilter := get?_ofPairs_eq_of_headed_eq (headed_eq_of_mem (List.mem_cons_self) h)
      have hTerm := get?_ofPairs_eq_of_headed_eq
        (headed_eq_of_mem (List.mem_cons_of_mem _ List.mem_cons_self) h)
      rw [hFilters, hFilters', filterMap, filterMap, hFilter, hTerm]
    · rw [hSort, hSort', sortParam, sortParam, get?_ofPairs_eq_of_headed_eq h]
    · rw [perPageParam, get?_ofPairs_eq_of_headed_eq h] at hPerPage
      exact Except.ok.inj (hPerPage.symm.trans hPerPage')
    · rw [pageParam, get?_ofPairs_eq_of_headed_eq h] at hPage
      exact Except.ok.inj (hPage.symm.trans hPage')
    · rw [hSkip, hSkip', skipParam, skipParam, get?_ofPairs_eq_of_headed_eq h]
    · rw [get?_ofPairs_eq_of_headed_eq h] at hLimit
      exact Except.ok.inj (hLimit.symm.trans hLimit')

/-- The second page of the products from a price on, the dearest first. -/
def secondPage : List (String × String) :=
  [("filter[price][gte]", "5"), ("sort", "-price"), ("page", "2")]

/-- The same among keys that are like those of parameters: with a bracket missing, with a bracket
before the name, and below another name. -/
def secondPageAmongLookalikes : List (String × String) :=
  [("page[", "x"), ("filter[price][gte]", "5"), ("[limit]", "none"), ("sort", "-price"),
    ("filter]", "off"), ("page", "2"), ("utm[page]", "0")]

/-- Another page of the same products, in the same order. -/
def thirdPage : List (String × String) :=
  [("page", "3"), ("limit", "40"), ("filter[price][gte]", "5"), ("sort", "-price")]

theorem parameters_do_not_interfere_lookalikes :
    headed (parameters (some "q")) secondPageAmongLookalikes =
        headed (parameters (some "q")) secondPage ∧
      SearchRequest.ofPairs (some "q") secondPageAmongLookalikes =
        SearchRequest.ofPairs (some "q") secondPage ∧
      ∃ q r, SearchRequest.ofPairs (some "q") secondPage = .ok q ∧
        SearchRequest.ofPairs (some "q") thirdPage = .ok r ∧ q.page = 2 ∧ r.page = 3 ∧
        headed ["filter", "q"] secondPage = headed ["filter", "q"] thirdPage ∧ q.filters = r.filters ∧
        headed ["sort"] secondPage = headed ["sort"] thirdPage ∧ q.sort = r.sort := by
  have hSecond : Param.ofPairs secondPage = [("filter", .node [("price", .node [("gte", .text "5")])]),
      ("sort", .text "-price"), ("page", .text "2")] := by rfl
  have hThird : Param.ofPairs thirdPage = [("page", .text "3"), ("limit", .text "40"),
      ("filter", .node [("price", .node [("gte", .text "5")])]), ("sort", .text "-price")] := by rfl
  have hq : SearchRequest.ofPairs (some "q") secondPage = .ok
      ⟨[(.text "price", .mapping [(.text "gte", .text "5")])], "-price", none, 2, false, none⟩ := by
    rw [SearchRequest.ofPairs, hSecond]
    exact ofParams_eq_ok_iff.mpr ⟨rfl, rfl, rfl, rfl, rfl, rfl⟩
  have hr : SearchRequest.ofPairs (some "q") thirdPage = .ok
      ⟨[(.text "price", .mapping [(.text "gte", .text "5")])], "-price", none, 3, false,
        some 40⟩ := by
    rw [SearchRequest.ofPairs, hThird]
    exact ofParams_eq_ok_iff.mpr ⟨rfl, rfl, rfl, rfl, rfl, rfl⟩
  have hHeaded : headed (parameters (some "q")) secondPageAmongLookalikes =
      headed (parameters (some "q")) secondPage := by decide
  have hFilter : headed ["filter", "q"] secondPage = headed ["filter", "q"] thirdPage := by
    decide
  have hSort : headed ["sort"] secondPage = headed ["sort"] thirdPage := by decide
  have hSame := (parameters_do_not_interfere (some "q") secondPageAmongLookalikes secondPage).1 hHeaded
  obtain ⟨hFilters, hSorts, -⟩ :=
    (parameters_do_not_interfere (some "q") secondPage thirdPage).2 _ _ hq hr
  exact ⟨hHeaded, hSame, _, _, hq, hr, rfl, rfl, hFilter, hFilters hFilter, hSort, hSorts hSort⟩

end SearchRequest

end Winnow
