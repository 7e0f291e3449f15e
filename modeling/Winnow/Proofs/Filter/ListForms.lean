import Winnow.Proofs.Filter.Comparison
import Winnow.Proofs.Filter.Period
import Winnow.Proofs.Request.Heads

/-!
# Winnow.Proofs.Filter.ListForms — lists in brackets and between commas

Several values for one operator are written in two ways: a pair for each of them, under a key that
ends in empty brackets, or one pair with commas between the values. The first way leaves a list in
the tree of parameters and the second a text (`Param.ofPairs_append`, `Param.ofPairs_assign`), and
from either the same values are taken, although a list is blank if it has no items and a text if it
has no other characters than blanks (`Value.SameItems`).

`list_forms_agree`: from the pairs to the calls both ways come to the same. Only where a period has
more than two fragments does the error show what was written.

* `Param.nest`, `Value.under`: what stands at the end of a way, seen from its beginning; one more
  pair changes nothing else (`Param.add_nil`, `Param.add_nest`).
* `Period.bounds_of_sameItems`: bounds come from the values, and the error from the argument.
* `entryCalls_of_sameItems`: so the calls of an entry come from the values, too.
-/

namespace Winnow

open BracketKey

/-! ## Pairs for one place -/

namespace Param

/-- A part at the end of a way, with nothing else in the nodes on the way. -/
def nest : List String → Param → Param
  | [], p => p
  | name :: path, p => node [(name, nest path p)]

/-- The first value on a way makes its nodes. -/
theorem put_none (slot : Slot) (value : String) (path : List String) :
    put slot value path none = nest path (fill slot value none) := by
  induction path with
  | nil => rfl
  | cons name path ih =>
    rw [put, store_cons, nest, ← ih]
    rfl

/-- Another value at its end leaves the way as it is. -/
theorem put_nest (slot : Slot) (value : String) (path : List String) (p : Param) :
    put slot value path (some (nest path p)) = nest path (fill slot value (some p)) := by
  induction path with
  | nil => rfl
  | cons name path ih =>
    have hFound : get? name (children (some (nest (name :: path) p))) = some (nest path p) := by
      simp [nest, children, get?]
    rw [put, store_cons, hFound, ih]
    simp [nest, children, set]

section OnePlace

variable {key name : String} {path : List String} {slot : Slot}

/-- The first pair makes the way to its place. -/
theorem add_nil (hKey : BracketKey.read key = ⟨name :: path, slot⟩) (value : String) :
    add [] (key, value) = [(name, nest path (fill slot value none))] := by
  rw [add, hKey]
  dsimp only
  rw [store_cons, get?_nil, put_none]
  rfl

/-- Another pair for the same place comes to what stands there. -/
theorem add_nest (hKey : BracketKey.read key = ⟨name :: path, slot⟩) (value : String) (p : Param) :
    add [(name, nest path p)] (key, value) = [(name, nest path (fill slot value (some p)))] := by
  have hFound : get? name [(name, nest path p)] = some (nest path p) := by simp [get?]
  rw [add, hKey]
  dsimp only
  rw [store_cons, hFound, put_nest]
  simp [set]

/-- A single pair leaves its value at the end of the way. -/
theorem ofPairs_assign (hKey : BracketKey.read key = ⟨name :: path, .assign⟩) (value : String) :
    ofPairs [(key, value)] = [(name, nest path (text value))] := add_nil hKey value

/-- **Pairs that share a key** with empty brackets at its end leave a list of their values. -/
theorem ofPairs_append (hKey : BracketKey.read key = ⟨name :: path, .append⟩) {values : List String}
    (hSome : values ≠ []) :
    ofPairs (values.map fun value => (key, value)) = [(name, nest path (list values))] := by
  -- the pairs after the first find a list, and add to it
  have hMore (items rest : List String) :
      (rest.map fun value => (key, value)).foldl add [(name, nest path (list items))] =
        [(name, nest path (list (items ++ rest)))] := by
    induction rest generalizing items with
    | nil => simp
    | cons value rest ih =>
      have hList : fill .append value (some (list items)) = list (items ++ [value]) := rfl
      rw [List.map_cons, List.foldl_cons, add_nest hKey, hList, ih, List.append_assoc,
        List.singleton_append]
  obtain ⟨first, rest, rfl⟩ := List.exists_cons_of_ne_nil hSome
  rw [ofPairs, List.map_cons, List.foldl_cons, add_nil hKey]
  exact hMore [first] rest

end OnePlace

end Param

namespace Value

/-- A value under names, one mapping in the other. -/
def under : List String → Value → Value
  | [], v => v
  | name :: names, v => mapping [(text name, under names v)]

theorem toValue_nest (names : List String) (p : Param) :
    (Param.nest names p).toValue = p.toValue.under names := by
  induction names with
  | nil => rfl
  | cons name names ih => rw [Param.nest, Param.toValue, Param.entries, Param.entries, ih, under]

/-- The same values are taken from two arguments, and neither is blank. -/
structure SameItems (v w : Value) : Prop where
  splitList_eq : v.splitList = w.splitList
  isBlank_left : v.isBlank = false
  isBlank_right : w.isBlank = false

/-- **Texts in a list and between commas** are the same values, however many of them are blank. -/
theorem sameItems_intercalate {ss : List String} (hCommas : ∀ s ∈ ss, ',' ∉ s.toList)
    (hVisible : ∃ s ∈ ss, Text.isAllBlank s = false) :
    SameItems (list (ss.map text)) (text (",".intercalate ss)) := by
  obtain ⟨s, hMem, hVisible⟩ := hVisible
  have hSome : ss ≠ [] := List.ne_nil_of_mem hMem
  refine ⟨(splitList_intercalate hSome hCommas).symm, ?_, ?_⟩
  · simpa [isBlank] using hSome
  · exact Text.isAllBlank_intercalate hMem hVisible

end Value

namespace SearchRequest

/-- Parameters of filters alone ask for nothing else. -/
theorem ofParams_filter (termKey name : String) (p : Param) :
    ofParams termKey [("filter", Param.node [(name, p)])] =
      .ok { empty with filters := [(.text name, p.toValue)] } := by
  have hTerm : filterMap termKey [("filter", Param.node [(name, p)])] = [(.text name, p.toValue)] := by
    by_cases hKey : "filter" = termKey
    · subst hKey
      rfl
    · simp [filterMap, Param.get?_cons, hKey, Param.children, Param.entries]
  exact ofParams_eq_ok_iff.mpr ⟨hTerm.symm, rfl, rfl, rfl, rfl, rfl⟩

end SearchRequest

namespace Filter

/-! ## The two forms -/

/-- The names, below that of a field, of an operator that takes several values. -/
inductive TakesList : List String → Prop
  | among : TakesList [Operator.among.wireName]
  | notAmong : TakesList [Operator.notAmong.wireName]
  | between : TakesList [Operator.between.wireName]
  /-- The operator of documents, with the key of a member. -/
  | json (member : String) (h : isName member = true) : TakesList [Operator.json.wireName, member]

/-- A pair for each value: the key ends in empty brackets. -/
def bracketPairs (field : String) (names values : List String) : List (String × String) :=
  values.map fun value => (written "filter" (field :: names ++ [""]), value)

/-- One pair for all values: there are commas between them. -/
def commaPair (field : String) (names values : List String) : List (String × String) :=
  [(written "filter" (field :: names), ",".intercalate values)]

theorem TakesList.isName_of_mem {names : List String} (h : TakesList names) :
    ∀ name ∈ names, isName name = true := by
  cases h with
  | among => decide
  | notAmong => decide
  | between => decide
  | json member hMember =>
    intro name hMem
    rcases List.mem_cons.mp hMem with rfl | hMem
    · decide
    · exact List.mem_singleton.mp hMem ▸ hMember

section Requests

variable {field : String} {names values : List String} (hField : isName field = true)
  (hNames : ∀ name ∈ names, isName name = true)

include hField hNames

theorem read_written (slot : Slot) :
    BracketKey.read (written "filter" (field :: names ++ ending slot)) =
      ⟨"filter" :: field :: names, slot⟩ := by
  have hSpelled : isSpelled ⟨"filter" :: field :: names, slot⟩ = true := by
    have hFilter : isName "filter" = true := by decide
    simpa [isSpelled, hFilter, hField] using hNames
  have hRead := read_spell hSpelled
  rwa [spell] at hRead

/-- The pairs of the values leave a list. -/
theorem ofPairs_bracketPairs (termField? : Option String) (hSome : values ≠ []) :
    SearchRequest.ofPairs termField? (bracketPairs field names values) = .ok { SearchRequest.empty with
      filters := [(.text field, (Value.list (values.map .text)).under names)] } := by
  have hKey : BracketKey.read (written "filter" (field :: names ++ [""])) =
      ⟨"filter" :: field :: names, .append⟩ := read_written hField hNames .append
  rw [SearchRequest.ofPairs, bracketPairs, Param.ofPairs_append hKey hSome, Param.nest,
    SearchRequest.ofParams_filter, Value.toValue_nest, Param.toValue]

/-- The pair of all values leaves a text. -/
theorem ofPairs_commaPair (termField? : Option String) :
    SearchRequest.ofPairs termField? (commaPair field names values) = .ok { SearchRequest.empty with
      filters := [(.text field, (Value.text (",".intercalate values)).under names)] } := by
  have hKey : BracketKey.read (written "filter" (field :: names)) =
      ⟨"filter" :: field :: names, .assign⟩ := by
    have hRead := read_written hField hNames .assign
    rwa [ending, List.append_nil] at hRead
  rw [SearchRequest.ofPairs, commaPair, Param.ofPairs_assign hKey, Param.nest,
    SearchRequest.ofParams_filter, Value.toValue_nest, Param.toValue]

end Requests

/-! ## Calls from the values of an argument -/

section Calls

variable {dialect column : String} {v w : Value}

/-- Bounds come from the values. If there are too many, the error shows the argument. -/
theorem Period.bounds_of_sameItems (h : v.SameItems w) :
    bounds v = bounds w ∨ (v.splitList.length = 0 ∨ 2 < v.splitList.length) ∧
      bounds v = .error (.invalidPeriod v.display) ∧
      bounds w = .error (.invalidPeriod w.display) := by
  unfold bounds
  rw [← h.splitList_eq]
  rcases v.splitList with _ | ⟨a, _ | ⟨b, _ | ⟨c, rest⟩⟩⟩
  · exact .inr ⟨.inl rfl, rfl, rfl⟩
  · exact .inl rfl
  · exact .inl rfl
  · exact .inr ⟨.inr (by simp), rfl, rfl⟩

/-- The calls of an operator that takes a list come from the values, but for that error. -/
theorem leafCalls_of_sameItems {op : Operator} (hList : op = .among ∨ op = .notAmong ∨ op = .between)
    (h : v.SameItems w) :
    leafCalls dialect column op v = leafCalls dialect column op w ∨
      op = .between ∧ (v.splitList.length = 0 ∨ 2 < v.splitList.length) ∧
        leafCalls dialect column op v = [.fail (.invalidPeriod v.display)] ∧
        leafCalls dialect column op w = [.fail (.invalidPeriod w.display)] := by
  rcases hList with rfl | rfl | rfl
  · left
    rw [leafCalls, leafCalls, h.splitList_eq]
  · left
    rw [leafCalls, leafCalls, h.splitList_eq]
  · rcases Period.bounds_of_sameItems h with hBounds | ⟨hLength, hv, hw⟩
    · left
      rw [leafCalls, leafCalls, hBounds]
    · right
      exact ⟨rfl, hLength, by rw [leafCalls, hv], by rw [leafCalls, hw]⟩

theorem documentCall?_of_sameItems (key : Value) (h : v.SameItems w) :
    documentCall? column key v = documentCall? column key w := by
  rw [documentCall?, documentCall?, h.splitList_eq]

/-- The calls of an entry with one operator, whose argument is not blank. -/
theorem entryCalls_under {externalId : String} {key : Value} {path : FieldPath} (dialect : String)
    (v : Value) (op : Operator) (hRead : FieldPath.read externalId key = .ok path)
    (hBlank : v.isBlank = false) :
    entryCalls dialect externalId key (v.under [op.wireName]) =
      Call.nest path.relations (leafCalls dialect path.column op v) := by
  have hOperators : operatorEntries (v.under [op.wireName]) = [(.text op.wireName, v)] := rfl
  simp only [entryCalls, hRead, hOperators, List.flatMap_cons, List.flatMap_nil, List.append_nil]
  rw [operatorCalls_of_operator (operatorOf_wireName op), if_neg]
  rintro ⟨-, h⟩
  exact Bool.false_ne_true (hBlank.symm.trans h)

/-- **The calls of an entry** with an operator that takes several values come from these values, but
for the error that shows the argument of a period. -/
theorem entryCalls_of_sameItems (dialect externalId : String) (key : Value) {names : List String}
    (hNames : TakesList names) (h : v.SameItems w) :
    entryCalls dialect externalId key (v.under names) =
        entryCalls dialect externalId key (w.under names) ∨
      names = [Operator.between.wireName] ∧ (v.splitList.length = 0 ∨ 2 < v.splitList.length) ∧
        ∃ relations,
          entryCalls dialect externalId key (v.under names) =
            Call.nest relations [.fail (.invalidPeriod v.display)] ∧
          entryCalls dialect externalId key (w.under names) =
            Call.nest relations [.fail (.invalidPeriod w.display)] := by
  cases hRead : FieldPath.read externalId key with
  | error e =>
    left
    rw [entryCalls, entryCalls, hRead]
  | ok path =>
    have hDirect {op : Operator} (hList : op = .among ∨ op = .notAmong ∨ op = .between) :
        entryCalls dialect externalId key (v.under [op.wireName]) =
            entryCalls dialect externalId key (w.under [op.wireName]) ∨
          op = .between ∧ (v.splitList.length = 0 ∨ 2 < v.splitList.length) ∧ ∃ relations,
            entryCalls dialect externalId key (v.under [op.wireName]) =
              Call.nest relations [.fail (.invalidPeriod v.display)] ∧
            entryCalls dialect externalId key (w.under [op.wireName]) =
              Call.nest relations [.fail (.invalidPeriod w.display)] := by
      rw [entryCalls_under dialect v op hRead h.isBlank_left,
        entryCalls_under dialect w op hRead h.isBlank_right]
      rcases leafCalls_of_sameItems hList h with hSame | ⟨hBetween, hLength, hv, hw⟩
      · exact .inl (by rw [hSame])
      · exact .inr ⟨hBetween, hLength, path.relations, by rw [hv], by rw [hw]⟩
    cases hNames with
    | among => exact (hDirect (.inl rfl)).imp_right fun hOther => absurd hOther.1 (by decide)
    | notAmong => exact (hDirect (.inr (.inl rfl))).imp_right fun hOther => absurd hOther.1 (by decide)
    | between => exact (hDirect (.inr (.inr rfl))).imp_right fun hOther => ⟨rfl, hOther.2⟩
    | json member hMember =>
      -- the argument of the operator is a mapping, which is blank in neither form
      left
      have hJson (u : Value) := entryCalls_under dialect (u.under [member]) .json hRead rfl
      have hSame : leafCalls dialect path.column .json (v.under [member]) =
          leafCalls dialect path.column .json (w.under [member]) := by
        simp only [leafCalls, Value.under, Value.entries?, List.filterMap_cons, List.filterMap_nil,
          documentCall?_of_sameItems (.text member) h]
      exact (hJson v).trans (hSame ▸ (hJson w).symm)

end Calls

/-! ## From pairs to calls -/

/-- Nothing is noted of a scope that breaks off. -/
theorem recorded_nest_fail (relations : List String) (e : Error) :
    Call.recorded (Call.nest relations [.fail e]) = ([], some e) := by
  have hFailure (relations : List String) :
      Call.firstFailure? (Call.nest relations [.fail e]) = some e := by
    induction relations with
    | nil => rfl
    | cons relation relations ih => simp [Call.nest, Call.firstFailure?, Call.failure?, ih]
  cases relations with
  | nil => rfl
  | cons relation relations => simp [Call.nest, Call.recorded, Call.failure?, hFailure]

/-- How many values a list of texts has: as many as are not blank. -/
theorem length_splitList_list (values : List String) :
    (Value.list (values.map .text)).splitList.length =
      (values.filter (!Text.isAllBlank ·)).length := by
  rw [Value.splitList_list, List.length_map, List.filter_map, List.length_map]
  refine congrArg List.length (List.filter_congr fun s _ => ?_)
  rw [Function.comp_apply, Text.isAllBlank_trim]

/-- **Lists in brackets and between commas agree**, from the pairs to the calls. Let a field have a
name that is not that of the search term, and let values without commas be given for an operator that
takes several; they may be blank, but not all of them. A pair for each value and one pair for all of
them both spell a request, which asks for nothing but the filters. The calls of the two requests are
the same, on every query. Only if the operator is that of periods and there are more than two values,
both break off, at the same place and before a call is noted: the errors are of one kind, and show
what was written. -/
theorem list_forms_agree (termField? : Option String) (o : Options) (dialect field : String)
    (names values : List String) (hEdits : o.edits = []) (hField : isName field = true)
    (hTerm : field ≠ o.termKey) (hNames : TakesList names)
    (hCommas : ∀ s ∈ values, ',' ∉ s.toList)
    (hVisible : ∃ s ∈ values, Text.isAllBlank s = false) :
    ∃ q r, SearchRequest.ofPairs termField? (bracketPairs field names values) = .ok q ∧
      SearchRequest.ofPairs termField? (commaPair field names values) = .ok r ∧
      q = { SearchRequest.empty with filters := q.filters } ∧
      r = { SearchRequest.empty with filters := r.filters } ∧
      (o.calls dialect (.mapping q.filters) = o.calls dialect (.mapping r.filters) ∨
        names = [Operator.between.wireName] ∧
        2 < (values.filter (!Text.isAllBlank ·)).length ∧
        ∃ relations shown shown',
          o.calls dialect (.mapping q.filters) =
            Call.nest relations [.fail (.invalidPeriod shown)] ∧
          o.calls dialect (.mapping r.filters) =
            Call.nest relations [.fail (.invalidPeriod shown')] ∧
          Call.recorded (o.calls dialect (.mapping q.filters)) =
            ([], some (.invalidPeriod shown)) ∧
          Call.recorded (o.calls dialect (.mapping r.filters)) =
            ([], some (.invalidPeriod shown'))) := by
  have hSome : values ≠ [] := List.ne_nil_of_mem hVisible.choose_spec.1
  have hItems := Value.sameItems_intercalate hCommas hVisible
  -- one entry is read, and it is not that of the search term
  have hEntry (v : Value) : o.calls dialect (.mapping [(.text field, v)]) =
      Filter.entryCalls (o.dialect?.getD dialect) o.externalId (.text field) v := by
    have hNot : ¬ o.IsTerm (.text field, v) := fun h =>
      hTerm (Option.some.inj (Value.sameKey_text_iff.mp h))
    rw [Options.calls_mapping hEdits, Options.entryCalls_of_not_isTerm hNot]
  refine ⟨_, _, ofPairs_bracketPairs hField hNames.isName_of_mem termField? hSome,
    ofPairs_commaPair hField hNames.isName_of_mem termField?, rfl, rfl, ?_⟩
  rcases entryCalls_of_sameItems (o.dialect?.getD dialect) o.externalId (.text field) hNames hItems
    with hSame | ⟨hBetween, hLength, relations, hList, hText⟩
  · exact .inl (by rw [hEntry, hEntry, hSame])
  · refine .inr ⟨hBetween, ?_, relations, _, _, (hEntry _).trans hList, (hEntry _).trans hText,
      ?_, ?_⟩
    · rw [length_splitList_list] at hLength
      obtain ⟨s, hMem, hVisible⟩ := hVisible
      have hKept : s ∈ values.filter (!Text.isAllBlank ·) :=
        List.mem_filter.mpr ⟨hMem, by rw [hVisible]; rfl⟩
      have := List.length_pos_of_mem hKept
      omega
    · rw [hEntry, hList, recorded_nest_fail]
    · rw [hEntry, hText, recorded_nest_fail]

/-- Two colours with a blank between them, sought in the documents of the shop. -/
theorem list_forms_agree_colors :
    bracketPairs "attributes" ["json", "color"] ["red", " ", "black "] =
      [("filter[attributes][json][color][]", "red"), ("filter[attributes][json][color][]", " "),
        ("filter[attributes][json][color][]", "black ")] ∧
    commaPair "attributes" ["json", "color"] ["red", " ", "black "] =
      [("filter[attributes][json][color]", "red, ,black ")] ∧
    ∃ q r, SearchRequest.ofPairs none
        (bracketPairs "attributes" ["json", "color"] ["red", " ", "black "]) = .ok q ∧
      SearchRequest.ofPairs none
        (commaPair "attributes" ["json", "color"] ["red", " ", "black "]) = .ok r ∧
      productsAfter q.filters = productsAfter r.filters ∧
      (productsAfter r.filters).2.isNone ∧
      ((productsAfter r.filters).1.matching Sample.shop).map (·.key) = [1, 3, 6, 9] := by
  refine ⟨by decide, by decide, ?_⟩
  have hNames : TakesList ["json", "color"] := .json "color" (by decide)
  obtain ⟨q, r, hq, hr, -, -, hSame | ⟨hBetween, -⟩⟩ := list_forms_agree none Options.default "sqlite"
    "attributes" ["json", "color"] ["red", " ", "black "] rfl (by decide) (by decide) hNames
    (by decide) ⟨"red", by decide, by decide⟩
  · have hRun : productsAfter q.filters = productsAfter r.filters :=
      congrArg ((Selection.ofModel Sample.product "sqlite").callAll Sample.shop.schema) hSame
    refine ⟨q, r, hq, hr, hRun, ?_⟩
    rw [ofPairs_commaPair (by decide) hNames.isName_of_mem] at hr
    obtain rfl := Except.ok.inj hr
    exact ⟨by decide +kernel, by decide +kernel⟩
  · exact absurd hBetween (by decide)

/-- Three months are too many. The error shows them as they were written. -/
example : (Call.recorded (Options.default.calls "sqlite" (.mapping [(.text "createdAt",
      (Value.list [.text "2024-01", .text "2024-02", .text "2024-03"]).under ["btw"])]))).2 =
        some (.invalidPeriod "['2024-01', '2024-02', '2024-03']") ∧
    (Call.recorded (Options.default.calls "sqlite" (.mapping [(.text "createdAt",
      (Value.text "2024-01,2024-02,2024-03").under ["btw"])]))).2 =
        some (.invalidPeriod "2024-01,2024-02,2024-03") := by
  decide

end Filter

end Winnow
