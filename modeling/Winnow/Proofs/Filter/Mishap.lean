import Winnow.Proofs.Filter.Entry
import Winnow.Proofs.Request.Leaves
import Winnow.Proofs.Store.Mishap
import Winnow.Request.Search
import Winnow.Sample.Shop

/-!
# Winnow.Proofs.Filter.Mishap — what filters of a request can fail for

Whoever writes a bad filter should be told so. From the parameters of a request to the calls that are
made of its filter map this is the case: keys of filters and arguments of operators are either read
or refused with a message (`Filter.Options.isAsked_of_mem_calls`), since a filter map that parameters
spell holds nothing but texts, lists of texts and mappings from texts to such values
(`SearchRequest.areArguments_filters`).

It is not the case behind the calls. Main statement (`filters_fail_told_or_untold`): the selection
that the filters of a request make is refused with a message unless a boolean is ordered, and its
queries fail for the causes that `Selection.Fails` lists and without a message. A key that does not
fit into 64 bits is the shortest example (`largeKey_overflows`): the column takes it for an integer,
and the store does not.

Edits of the filter map are left out, since they may put anything into it.
-/

namespace Winnow

/-! ## Arguments of a query string -/

namespace Value

/-- Are the entries those of a mapping from texts to arguments? -/
def AreArguments (entries : List (Value × Value)) : Prop :=
  ∀ e ∈ entries, e.1.IsPlainText ∧ e.2.IsArgument

theorem isArgument_mapping_iff {entries : List (Value × Value)} :
    (mapping entries).IsArgument ↔ AreArguments entries := by
  constructor
  · rintro (_ | _ | ⟨hKeys, hValues⟩)
    exact fun e he => ⟨hKeys e he, hValues e he⟩
  · exact fun h => .mapping (fun e he => (h e he).1) fun e he => (h e he).2

theorem IsArgument.areArguments {v : Value} (h : v.IsArgument) {entries : List (Value × Value)}
    (hEntries : v.entries? = some entries) : AreArguments entries := by
  cases h with
  | text => cases hEntries
  | list => cases hEntries
  | mapping hKeys hValues =>
    cases hEntries
    exact isArgument_mapping_iff.mp (.mapping hKeys hValues)

theorem IsArgument.trimmed {v : Value} (h : v.IsArgument) : v.trimmed.IsArgument := by
  cases h with
  | text s => exact .text (Text.trim s)
  | list h => exact .list h
  | mapping hKeys hValues => exact .mapping hKeys hValues

/-- The values in an argument are texts. -/
theorem IsArgument.isPlainText_of_mem_splitList {v : Value} (h : v.IsArgument) :
    ∀ item ∈ v.splitList, item.IsPlainText := by
  have hPieces {pieces : List Value} (hTexts : ∀ piece ∈ pieces, piece.IsPlainText) :
      ∀ item ∈ (pieces.map Value.trimmed).filter (!·.isBlank), item.IsPlainText := by
    intro item hItem
    obtain ⟨piece, hMem, rfl⟩ := List.mem_map.mp (List.mem_of_mem_filter hItem)
    obtain ⟨s, rfl⟩ := hTexts piece hMem
    exact ⟨Text.trim s, rfl⟩
  have hSplit (s : String) : ∀ piece ∈ (Text.split ',' s).map Value.text, piece.IsPlainText := by
    intro piece hPiece
    obtain ⟨t, -, rfl⟩ := List.mem_map.mp hPiece
    exact ⟨t, rfl⟩
  unfold splitList
  cases h with
  | text s => exact hPieces (hSplit _)
  | list hItems => exact hPieces hItems
  | mapping => exact hPieces (hSplit _)

end Value

namespace Param

theorem areArguments_entries {cs : List (String × Param)} (h : ∀ c ∈ cs, c.2.toValue.IsArgument) :
    Value.AreArguments (entries cs) := by
  induction cs with
  | nil => exact fun _ hMem => absurd hMem List.not_mem_nil
  | cons c cs ih =>
    obtain ⟨hHead, hTail⟩ := List.forall_mem_cons.mp h
    exact List.forall_mem_cons.mpr ⟨⟨⟨c.1, rfl⟩, hHead⟩, ih hTail⟩

/-- **A part of the parameters** is an argument. -/
theorem isArgument_toValue (p : Param) : p.toValue.IsArgument := by
  induction p with
  | text s => exact .text s
  | list items =>
    apply Value.IsArgument.list
    intro v hv
    obtain ⟨s, -, rfl⟩ := List.mem_map.mp hv
    exact ⟨s, rfl⟩
  | node cs ih =>
    rw [toValue]
    exact Value.isArgument_mapping_iff.mpr (areArguments_entries ih)

end Param

namespace SearchRequest

theorem areArguments_filterMap (termKey : String) (params : List (String × Param)) :
    Value.AreArguments (filterMap termKey params) := by
  have hFilters : Value.AreArguments
      (Param.entries (Param.children (Param.get? "filter" params))) :=
    Param.areArguments_entries fun c _ => c.2.isArgument_toValue
  unfold filterMap
  dsimp only
  split
  · split
    · exact hFilters
    · rename_i term _ _
      refine List.forall_mem_append.mpr ⟨hFilters, List.forall_mem_singleton.mpr ?_⟩
      exact ⟨⟨termKey, rfl⟩, .text term⟩
  · exact hFilters

/-- **The filter map of a request** that pairs spell holds arguments. -/
theorem areArguments_filters {termKey? : Option String} {pairs : List (String × String)}
    {q : SearchRequest} (h : ofPairs termKey? pairs = .ok q) : Value.AreArguments q.filters := by
  obtain ⟨perPage, -, h⟩ := bind_eq_ok_iff.mp h
  obtain ⟨page, -, h⟩ := bind_eq_ok_iff.mp h
  obtain ⟨limit, -, h⟩ := bind_eq_ok_iff.mp h
  obtain rfl := Except.ok.inj h
  exact areArguments_filterMap _ _

end SearchRequest

/-! ## Calls of filters -/

namespace Filter

variable {dialect column : String} {v : Value}

theorem isSome_ofSymbol? {symbol : String} (h : symbol ∈ ["<", "<=", ">", ">="]) :
    (Comparison.ofSymbol? symbol).isSome = true := by
  revert symbol
  decide

/-- Whatever an operator asks of a column, it asks with its argument. -/
theorem isAsked_of_mem_leafCalls {op : Operator} (hArgument : v.IsArgument) :
    ∀ call ∈ leafCalls dialect column op v, call.IsAsked := by
  intro call h
  cases leafCall_of_mem h with
  | equals => exact hArgument.trimmed
  | notEquals => exact hArgument.trimmed
  | compare symbol hSymbol => exact ⟨isSome_ofSymbol? hSymbol, hArgument⟩
  | among => exact hArgument.isPlainText_of_mem_splitList
  | notAmong => exact hArgument.isPlainText_of_mem_splitList
  | like => trivial
  | notNull => trivial
  | between lower upper => exact ⟨⟨lower, rfl⟩, upper, rfl⟩
  | orNull symbol hSymbol => exact ⟨trivial, ⟨isSome_ofSymbol? hSymbol, hArgument⟩, trivial⟩
  | document entries e item hEntries hMem hItem =>
    exact (hArgument.areArguments hEntries e hMem).2.isPlainText_of_mem_splitList item hItem
  | documents entries e hEntries hMem =>
    rw [Call.IsAsked, Call.allAsked_iff]
    intro search hSearch
    obtain ⟨item, hItem, rfl⟩ := List.mem_map.mp hSearch
    exact (hArgument.areArguments hEntries e hMem).2.isPlainText_of_mem_splitList item hItem
  | fail e hTold => exact hTold

theorem isAsked_of_mem_scopedCalls {op : Operator} (hArgument : v.IsArgument) {names : List String} :
    ∀ call ∈ scopedCalls dialect column op v names, call.IsAsked := by
  induction names with
  | nil => exact isAsked_of_mem_leafCalls hArgument
  | cons name names ih =>
    intro call h
    rw [List.mem_singleton.mp h]
    exact Call.allAsked_iff.mpr ih

/-- The arguments of the operators of an entry are arguments. -/
theorem isArgument_of_mem_operatorEntries (hArgument : v.IsArgument) :
    ∀ p ∈ operatorEntries v, p.2.IsArgument := by
  intro p hMem
  unfold operatorEntries at hMem
  split at hMem
  · rename_i entries hEntries
    exact (hArgument.areArguments hEntries p hMem).2
  · rw [List.mem_singleton.mp hMem]
    exact hArgument

theorem isAsked_of_mem_entryCalls {externalId : String} {key : Value} (hArgument : v.IsArgument) :
    ∀ call ∈ entryCalls dialect externalId key v, call.IsAsked := by
  intro call h
  rcases entryCalls_cases h with ⟨e, hTold, rfl⟩ | ⟨path, p, op, -, hMem, hCall⟩
  · exact hTold
  · exact isAsked_of_mem_scopedCalls (isArgument_of_mem_operatorEntries hArgument p hMem) call hCall

namespace Options

variable {o : Options} {fields : List Value} {entries : List (Value × Value)}

theorem isAsked_of_mem_termCalls (hFields : o.termFields.iterated? = some fields) :
    ∀ call ∈ o.termCalls dialect v, call.IsAsked := by
  intro call h
  rcases termCalls_cases h with ⟨names, -, rfl⟩ | ⟨hNone, -⟩
  · apply Call.allAsked_iff.mpr
    intro like hLike
    obtain ⟨name, -, rfl⟩ := List.mem_map.mp hLike
    trivial
  · rw [hFields] at hNone
    cases hNone

/-- **A filter map that holds arguments** makes calls that ask with them. -/
theorem isAsked_of_mem_calls {queryDialect : String} (hEdits : o.edits = [])
    (hFields : o.termFields.iterated? = some fields) (hArguments : Value.AreArguments entries) :
    ∀ call ∈ o.calls queryDialect (.mapping entries), call.IsAsked := by
  intro call h
  rw [calls_mapping hEdits] at h
  rcases mem_entryCalls_iff_term_or_field.mp h with ⟨v, -, hCall⟩ | ⟨e, hMem, -, hCall⟩
  · exact isAsked_of_mem_termCalls hFields call hCall
  · exact isAsked_of_mem_entryCalls (hArguments e hMem).2 call hCall

/-- The selection that the filters of a request make of the rows of a model. -/
def select (o : Options) (schema : Schema) (m : Model) (q : SearchRequest) : Except Error Selection :=
  (Selection.ofModel m "sqlite").callAll? schema (o.calls "sqlite" (.mapping q.filters))

/-- Do the filters of a request order a boolean? -/
def OrdersFlags (o : Options) (schema : Schema) (m : Model) (q : SearchRequest) : Prop :=
  Call.SomeOrderFlags schema m (o.calls "sqlite" (.mapping q.filters))

end Options

/-- **What the filters of a request can fail for.** The selection that they make is refused with a
message, unless they order a boolean. A query of it fails only for a refused parameter, for the size
of its statement or for a row, and without a message; a refused parameter and a statement that is too
large never go unnoticed. -/
theorem filters_fail_told_or_untold (db : Database) (m : Model) (o : Options)
    (termKey? : Option String) (pairs : List (String × String)) (q : SearchRequest)
    (fields : List Value) (hRequest : SearchRequest.ofPairs termKey? pairs = .ok q)
    (hEdits : o.edits = []) (hFields : o.termFields.iterated? = some fields) :
    (∀ e, o.select db.schema m q = .error e →
      IsTold e ∨ e = .unordered ∧ o.OrdersFlags db.schema m q) ∧
    ∀ s, o.select db.schema m q = .ok s →
      ¬ o.OrdersFlags db.schema m q ∧
      (∀ e, s.count db = .error e → s.Fails db .count e ∧ ¬ IsTold e) ∧
      (∀ n, s.count db = .ok n → s.mishaps = [] ∧ s.isReadable .count = true) ∧
      (∀ e, s.all db = .error e → s.Fails db .rows e ∧ ¬ IsTold e) ∧
      (∀ rows, s.all db = .ok rows → s.mishaps = [] ∧ s.isReadable .rows = true) := by
  have hCalls : ∀ call ∈ o.calls "sqlite" (.mapping q.filters), call.IsAsked :=
    Options.isAsked_of_mem_calls hEdits hFields (SearchRequest.areArguments_filters hRequest)
  have hRun : Yields (Condition.Refuses (o.OrdersFlags db.schema m q))
      (fun s => s.IsAsked ∧ s.model = m ∧ ¬ o.OrdersFlags db.schema m q) (o.select db.schema m q) :=
    Selection.yields_callAll? (Selection.isAsked_ofModel m) hCalls
  refine ⟨fun e hError => (hError ▸ hRun).of_error, fun s hSelection => ?_⟩
  obtain ⟨hAsked, -, hOrders⟩ := (hSelection ▸ hRun).of_ok
  have hCount := hAsked.yields_count db
  have hAll := hAsked.yields_all db
  refine ⟨hOrders, fun e hError => ?_, fun n hOk => ?_, fun e hError => ?_, fun rows hOk => ?_⟩
  · have hFails := (hError ▸ hCount).of_error
    exact ⟨hFails, hFails.not_told⟩
  · exact (hOk ▸ hCount).of_ok
  · have hFails := (hError ▸ hAll).of_error
    exact ⟨hFails, hFails.not_told⟩
  · exact (hOk ▸ hAll).of_ok

/-! ### A key that is too large -/

/-- A filter for a key that does not fit into 64 bits. -/
def largeKey : List (String × String) := [("filter[id]", "9223372036854775808")]

/-- The request that it spells. -/
def largeKeyRequest : SearchRequest :=
  ⟨[(.text "id", .text "9223372036854775808")], "", none, 1, false, none⟩

/-- The selection that it makes of the products. -/
def largeKeySelection : Selection :=
  (Selection.ofModel Sample.product "sqlite").gather
    [.compare ⟨"id", .integer⟩ .equal (.int 9223372036854775808)]

theorem ofPairs_largeKey : SearchRequest.ofPairs none largeKey = .ok largeKeyRequest := by
  have hParams : Param.ofPairs largeKey =
      [("filter", .node [("id", .text "9223372036854775808")])] := by rfl
  rw [SearchRequest.ofPairs, hParams]
  simp [SearchRequest.ofParams, SearchRequest.perPageParam, SearchRequest.pageParam,
    SearchRequest.intParam, SearchRequest.termKeyOf, SearchRequest.filterMap,
    SearchRequest.sortParam, SearchRequest.skipParam, Settings.termField, Param.get?,
    Param.children, Param.entries, Param.toValue, bind, Except.bind, pure, Except.pure]
  rfl

theorem select_largeKey : Options.default.select Sample.shop.schema Sample.product largeKeyRequest =
    .ok largeKeySelection := by
  rfl

theorem filters_fail_told_or_untold_largeKey :
    SearchRequest.ofPairs none largeKey = .ok largeKeyRequest ∧ Options.default.edits = [] ∧
      Options.default.termFields.iterated? = some [] ∧
      largeKeySelection.count Sample.shop = .error .overflow ∧
      largeKeySelection.Fails Sample.shop .count .overflow ∧
      largeKeySelection.all Sample.shop = .error .overflow ∧
      largeKeySelection.Fails Sample.shop .rows .overflow ∧ ¬ IsTold .overflow := by
  have hCount : largeKeySelection.count Sample.shop = .error .overflow := by rfl
  have hAll : largeKeySelection.all Sample.shop = .error .overflow := by rfl
  obtain ⟨-, hSelected⟩ := filters_fail_told_or_untold Sample.shop Sample.product Options.default
    none largeKey largeKeyRequest [] ofPairs_largeKey rfl rfl
  obtain ⟨-, hCountFails, -, hAllFails, -⟩ := hSelected largeKeySelection select_largeKey
  exact ⟨ofPairs_largeKey, rfl, rfl, hCount, (hCountFails _ hCount).1, hAll, (hAllFails _ hAll).1,
    (hAllFails _ hAll).2⟩

/-- The store is asked for a key that it cannot have, and the failure is nobody's fault: it is not
answered with status 400. -/
theorem largeKey_overflows : ∃ q s,
    SearchRequest.ofPairs none [("filter[id]", "9223372036854775808")] = .ok q ∧
      Options.default.select Sample.shop.schema Sample.product q = .ok s ∧
      s.count Sample.shop = .error .overflow ∧ s.all Sample.shop = .error .overflow ∧
      Error.overflow.isClient = false :=
  ⟨largeKeyRequest, largeKeySelection, ofPairs_largeKey, select_largeKey, by rfl, by rfl, by rfl⟩

/-- Whoever asks for tickets after the boolean `true` is not told either. -/
example : Options.default.select Sample.shop.schema Sample.ticket
    ⟨[(.text "urgent", .mapping [(.text "gt", .text "true")])], "", none, 1, false, none⟩ =
      .error .unordered := by
  rfl

end Filter

end Winnow
