import Winnow.Proofs.Store.Gathering

/-!
# Winnow.Proofs.Store.Argument — what columns make of the arguments of a request

A query string carries texts, lists of texts, and mappings from texts to such values; these are the
arguments (`Value.IsArgument`). A typed column either makes a value of its type of an argument or
refuses it with a message (`Column.yields_coerce`), so what such a column gets into a condition is
known (`ColumnKind.Makes`). Columns of documents, of enumerations and of types that are not known
take arguments as they are.

Filters make calls of arguments that know their symbols and break off with a message only
(`Call.IsAsked`). Main statement: such a call becomes a condition or is refused with a message, with
one exception (`Condition.yields_ofCall?`): a boolean has no order, and whoever orders a boolean
column is not told so. That happens exactly where a call does it (`Call.OrdersFlags`).
-/

namespace Winnow

/-! ## Outcomes -/

/-- Is what is computed good, or does the computation fail in a certain way? -/
inductive Yields {α : Type} (failure : Error → Prop) (good : α → Prop) : Except Error α → Prop
  | ok {a : α} (h : good a) : Yields failure good (.ok a)
  | error {e : Error} (h : failure e) : Yields failure good (.error e)

/-- Is the error told to whoever wrote the request, with a message of its own? -/
abbrev IsTold (e : Error) : Prop := e.isClient = true

namespace Yields

variable {α β : Type} {failure failure' : Error → Prop} {good : α → Prop} {x : Except Error α}

theorem bind {good' : β → Prop} {f : α → Except Error β} (hFirst : Yields failure good x)
    (hRest : ∀ a, good a → Yields failure good' (f a)) : Yields failure good' (x >>= f) := by
  cases hFirst with
  | ok h => exact hRest _ h
  | error h => exact .error h

theorem imp {good' : α → Prop} (h : Yields failure good x)
    (hFailure : ∀ e, failure e → failure' e) (hGood : ∀ a, good a → good' a) :
    Yields failure' good' x := by
  cases h with
  | ok h => exact .ok (hGood _ h)
  | error h => exact .error (hFailure _ h)

theorem of_ok {a : α} (h : Yields failure good (.ok a)) : good a := by
  cases h with
  | ok h => exact h

theorem of_error {e : Error} (h : Yields failure good (.error e)) : failure e := by
  cases h with
  | error h => exact h

end Yields

/-! ## Arguments -/

namespace Value

/-- Is the value a text? -/
def IsPlainText (v : Value) : Prop := ∃ s, v = text s

/-- Is the value one that a query string carries: a text, a list of texts, or a mapping from texts to
such values? -/
inductive IsArgument : Value → Prop
  | text (s : String) : IsArgument (text s)
  | list {items : List Value} (items_text : ∀ v ∈ items, v.IsPlainText) : IsArgument (list items)
  | mapping {entries : List (Value × Value)} (keys_text : ∀ e ∈ entries, e.1.IsPlainText)
      (values : ∀ e ∈ entries, IsArgument e.2) : IsArgument (mapping entries)

theorem exists_toJsonItems? {items : List Value} (h : ∀ v ∈ items, v.IsPlainText) :
    ∃ js, toJsonItems? items = some js := by
  induction items with
  | nil => exact ⟨[], rfl⟩
  | cons v items ih =>
    obtain ⟨⟨s, rfl⟩, hRest⟩ := List.forall_mem_cons.mp h
    obtain ⟨js, hRest⟩ := ih hRest
    exact ⟨.text s :: js, by simp [toJsonItems?, toJson?, hRest]⟩

theorem exists_toJsonMembers? {entries : List (Value × Value)}
    (hKeys : ∀ e ∈ entries, e.1.IsPlainText) (hValues : ∀ e ∈ entries, ∃ j, e.2.toJson? = some j) :
    ∃ js, toJsonMembers? entries = some js := by
  induction entries with
  | nil => exact ⟨[], rfl⟩
  | cons e entries ih =>
    obtain ⟨key, v⟩ := e
    obtain ⟨⟨s, rfl⟩, hRestKeys⟩ := List.forall_mem_cons.mp hKeys
    obtain ⟨⟨j, hValue⟩, hRestValues⟩ := List.forall_mem_cons.mp hValues
    obtain ⟨js, hRest⟩ := ih hRestKeys hRestValues
    exact ⟨(s, j) :: js, by simp [toJsonMembers?, label?, asText?, hValue, hRest]⟩

/-- Arguments are made of what documents are made of. -/
theorem IsArgument.exists_toJson? {v : Value} (h : v.IsArgument) : ∃ j, v.toJson? = some j := by
  induction h with
  | text s => exact ⟨.text s, rfl⟩
  | list hItems =>
    obtain ⟨js, hItems⟩ := exists_toJsonItems? hItems
    exact ⟨.array js, by rw [toJson?, hItems]; rfl⟩
  | mapping hKeys _ ih =>
    obtain ⟨js, hMembers⟩ := exists_toJsonMembers? hKeys ih
    exact ⟨.object js, by rw [toJson?, hMembers]; rfl⟩

theorem IsArgument.ne_null {v : Value} (h : v.IsArgument) : v ≠ .null := by
  rintro rfl
  cases h

end Value

/-! ## Arguments as columns take them -/

/-- Does a column of this kind take arguments as they are? -/
def ColumnKind.isOpen : ColumnKind → Bool
  | document | enumeration | other => true
  | _ => false

/-- What a column of this kind makes of a text. -/
inductive ColumnKind.Makes : ColumnKind → Value → Prop
  | boolean (b : Bool) : Makes .boolean (.bool b)
  | integer (n : Int) : Makes .integer (.int n)
  | double (x : Binary64) : Makes .double (.double x)
  | decimal (d : Decimal) : Makes .decimal (.decimal d)
  | date (d : Date) : Makes .date (.date d)
  | dateTime (zoned : Bool) (t : DateTime) : Makes (.dateTime zoned) (.dateTime t)
  | uuid (u : Uuid) : Makes .uuid (.uuid u)
  | text (s : String) : Makes .text (.text s)
  | asItIs {kind : ColumnKind} (h : kind.isOpen = true) (s : String) : Makes kind (.text s)

/-- What a column of this kind makes of an argument: of a list or a mapping a typed column makes what
it makes of its text, the others take it as it is. -/
def ColumnKind.MakesOfArgument (kind : ColumnKind) (v : Value) : Prop :=
  kind.Makes v ∨ kind.isOpen = true ∧ v.IsArgument

theorem ColumnKind.MakesOfArgument.ne_null {kind : ColumnKind} {v : Value}
    (h : kind.MakesOfArgument v) : v ≠ .null := by
  rcases h with h | ⟨-, h⟩
  · rintro rfl
    cases h
  · exact h.ne_null

namespace Column

variable {column : String} {v : Value}

theorem yields_orRefuse {α : Type} {good : Value → Prop} {expected : Expected} {a? : Option α}
    {make : α → Value} (h : ∀ a, good (make a)) :
    Yields IsTold good (orRefuse column expected (a?.map make)) := by
  cases a? with
  | none => exact .error rfl
  | some a => exact .ok (h a)

theorem yields_coerceBool (h : v.IsArgument) :
    Yields IsTold (ColumnKind.Makes .boolean) (coerceBool column v) := by
  have hWords (word : String) : Yields IsTold (ColumnKind.Makes .boolean)
      (if trueWords.contains word then .ok (.bool true)
        else if falseWords.contains word then .ok (.bool false)
        else refuse column .boolean) := by
    split
    · exact .ok (.boolean true)
    · split
      · exact .ok (.boolean false)
      · exact .error rfl
  unfold coerceBool
  cases h <;> exact hWords _

theorem yields_coerceInt (h : v.IsArgument) :
    Yields IsTold (ColumnKind.Makes .integer) (coerceInt column v) := by
  have hRead : coerceInt column v = orRefuse column .number
      ((Number.readInt? (Text.trim v.display).toList).map .int) := by
    cases h <;> rfl
  rw [hRead]
  exact yields_orRefuse .integer

theorem yields_coerceDouble (h : v.IsArgument) :
    Yields IsTold (ColumnKind.Makes .double) (coerceDouble column v) := by
  have hRead : coerceDouble column v = orRefuse column .number
      ((Number.readDouble? (Text.trim v.display).toList).map .double) := by
    cases h <;> rfl
  rw [hRead]
  exact yields_orRefuse .double

theorem yields_coerceDecimal (h : v.IsArgument) :
    Yields IsTold (ColumnKind.Makes .decimal) (coerceDecimal column v) := by
  have hRead : coerceDecimal column v = orRefuse column .number
      ((Decimal.read? (Text.trim v.display).toList).map .decimal) := by
    cases h <;> rfl
  rw [hRead]
  exact yields_orRefuse .decimal

theorem yields_coerceDate (h : v.IsArgument) :
    Yields IsTold (ColumnKind.Makes .date) (coerceDate column v) := by
  unfold coerceDate
  cases h <;> exact yields_orRefuse .date

theorem yields_coerceDateTime (h : v.IsArgument) (zoned : Bool) :
    Yields IsTold (ColumnKind.Makes (.dateTime zoned)) (coerceDateTime column zoned v) := by
  unfold coerceDateTime
  cases h <;> exact yields_orRefuse fun t => .dateTime zoned _

theorem yields_coerceUuid (h : v.IsArgument) :
    Yields IsTold (ColumnKind.Makes .uuid) (coerceUuid column v) := by
  unfold coerceUuid
  cases h <;>
  · dsimp only
    split
    · exact .ok (.uuid _)
    · exact .error rfl

theorem makes_coerceText (h : v.IsArgument) : ColumnKind.Makes .text (coerceText v) := by
  cases h with
  | text s => exact .text s
  | list => exact .text _
  | mapping => exact .text _

/-- **Every argument is taken or refused with a message.** -/
theorem yields_coerce (c : Column) (h : v.IsArgument) :
    Yields IsTold c.kind.MakesOfArgument (c.coerce v) := by
  rw [coerce_of_ne_null c h.ne_null]
  obtain ⟨column, kind⟩ := c
  have hTyped {x : Except Error Value} (hx : Yields IsTold kind.Makes x) :
      Yields IsTold kind.MakesOfArgument x :=
    hx.imp (fun _ => id) fun _ => Or.inl
  cases kind with
  | boolean => exact hTyped (yields_coerceBool h)
  | integer => exact hTyped (yields_coerceInt h)
  | double => exact hTyped (yields_coerceDouble h)
  | decimal => exact hTyped (yields_coerceDecimal h)
  | date => exact hTyped (yields_coerceDate h)
  | dateTime zoned => exact hTyped (yields_coerceDateTime h zoned)
  | uuid => exact hTyped (yields_coerceUuid h)
  | text => exact .ok (Or.inl (makes_coerceText h))
  | document | enumeration | other => exact .ok (Or.inr ⟨rfl, h⟩)

theorem yields_coerce_text (c : Column) (h : v.IsPlainText) :
    Yields IsTold c.kind.Makes (c.coerce v) := by
  obtain ⟨s, rfl⟩ := h
  by_cases hOpen : c.kind.isOpen = true
  · have hCoerce : c.coerce (.text s) = .ok (.text s) := by
      obtain ⟨name, kind⟩ := c
      cases kind with
      | document | enumeration | other => rfl
      | _ => cases hOpen
    rw [hCoerce]
    exact .ok (.asItIs hOpen s)
  · refine (yields_coerce c (.text s)).imp (fun _ => id) fun w hw => ?_
    exact hw.resolve_right fun h => hOpen h.1

/-- Several texts are taken one by one. -/
theorem yields_coerceAll (c : Column) {vs : List Value} (h : ∀ v ∈ vs, v.IsPlainText) :
    Yields IsTold (fun ws => ∀ w ∈ ws, c.kind.Makes w) (c.coerceAll vs) := by
  induction vs with
  | nil => exact .ok nofun
  | cons v vs ih =>
    obtain ⟨hHead, hTail⟩ := List.forall_mem_cons.mp h
    refine (yields_coerce_text c hHead).bind fun w hw => (ih hTail).bind fun ws hws => ?_
    exact .ok (List.forall_mem_cons.mpr ⟨hw, hws⟩)

end Column

/-! ## Calls and their conditions -/

namespace Call

mutual

/-- Is the call one that filters make of arguments? It compares with arguments and texts, and where
it breaks off the error is told. -/
def IsAsked : Call → Prop
  | equals _ v => v.IsArgument
  | notEquals _ v => v.IsArgument
  | compare _ symbol v => (Comparison.ofSymbol? symbol).isSome = true ∧ v.IsArgument
  | among _ vs => ∀ v ∈ vs, v.IsPlainText
  | notAmong _ vs => ∀ v ∈ vs, v.IsPlainText
  | like .. => True
  | isNull _ => True
  | notNull _ => True
  | between _ lower upper => lower.IsPlainText ∧ upper.IsPlainText
  | documentHas _ _ v => v.IsPlainText
  | any calls => AllAsked calls
  | has _ calls => AllAsked calls
  | orderBy .. => False
  | limit _ => False
  | fail e => IsTold e

/-- Are all the calls such calls? -/
def AllAsked : List Call → Prop
  | [] => True
  | c :: cs => IsAsked c ∧ AllAsked cs

end

theorem allAsked_iff {calls : List Call} : AllAsked calls ↔ ∀ c ∈ calls, c.IsAsked := by
  induction calls with
  | nil => simp [AllAsked]
  | cons c cs ih => simp [AllAsked, ih]

theorem IsAsked.isFilter {c : Call} (h : c.IsAsked) : c.isFilter = true := by
  cases c with
  | orderBy => cases h
  | limit => cases h
  | _ => rfl

mutual

/-- Does the call compare a boolean column by order, with an argument that spells a boolean? -/
def OrdersFlags (schema : Schema) (m : Model) : Call → Prop
  | compare name _ v => ∃ c b, Condition.column m name = .ok c ∧ c.coerce v = .ok (.bool b)
  | any calls => SomeOrderFlags schema m calls
  | has name calls => ∃ rel target, m.relation? name = some rel ∧
    schema.model? rel.target = some target ∧ SomeOrderFlags schema target calls
  | _ => False

/-- Does one of the calls? -/
def SomeOrderFlags (schema : Schema) (m : Model) : List Call → Prop
  | [] => False
  | c :: cs => OrdersFlags schema m c ∨ SomeOrderFlags schema m cs

end

theorem someOrderFlags_iff {schema : Schema} {m : Model} {calls : List Call} :
    SomeOrderFlags schema m calls ↔ ∃ c ∈ calls, c.OrdersFlags schema m := by
  induction calls with
  | nil => simp [SomeOrderFlags]
  | cons c cs ih => simp [SomeOrderFlags, ih]

end Call

namespace Condition

mutual

/-- Is the condition one that filters make of arguments on a store of documents that are searched by
their elements? -/
def IsAsked : Condition → Prop
  | isNull _ => True
  | notNull _ => True
  | flag .. => True
  | compare c _ v => c.kind.MakesOfArgument v
  | among c vs => ∀ v ∈ vs, c.kind.Makes v
  | notAmong c vs => ∀ v ∈ vs, c.kind.Makes v
  | like .. => True
  | between c lower upper => c.kind.Makes lower ∧ c.kind.Makes upper
  | documentHas _ form _ v => form = .elements ∧ v.IsPlainText
  | any conditions => AllAsked conditions
  | has _ _ conditions => AllAsked conditions

/-- Are all the conditions such conditions? -/
def AllAsked : List Condition → Prop
  | [] => True
  | c :: cs => IsAsked c ∧ AllAsked cs

end

theorem allAsked_iff {conditions : List Condition} :
    AllAsked conditions ↔ ∀ c ∈ conditions, c.IsAsked := by
  induction conditions with
  | nil => simp [AllAsked]
  | cons c cs ih => simp [AllAsked, ih]

/-- Why the conditions of calls are refused: the error is told, or a boolean has been ordered. -/
def Refuses (orders : Prop) (e : Error) : Prop := IsTold e ∨ e = .unordered ∧ orders

variable {schema : Schema} {m : Model}

theorem yields_column (m : Model) (name : String) :
    Yields IsTold (fun c => column m name = .ok c) (column m name) := by
  unfold column
  cases m.column? name with
  | none => exact .error rfl
  | some c => exact .ok rfl

theorem isAsked_ofEquality {c : Column} {v : Value} (negated : Bool)
    (h : c.kind.MakesOfArgument v) : (ofEquality c negated v).IsAsked := by
  cases v with
  | null => cases negated <;> trivial
  | bool => trivial
  | _ => exact h

/-- Of what a column makes of an argument only a boolean has no order. -/
theorem yields_ofOrder {c : Column} {comparison : Comparison} {v : Value}
    (h : c.kind.MakesOfArgument v) :
    Yields (fun e => e = .unordered ∧ ∃ b, v = .bool b) IsAsked (ofOrder c comparison v) := by
  cases v with
  | null => exact absurd rfl h.ne_null
  | bool b => exact .error ⟨rfl, b, rfl⟩
  | _ => exact .ok h

/-- Calls that each yield conditions of a kind yield a list of them. -/
theorem yields_ofCalls {dialect : String} {calls : List Call} {failure : Error → Prop}
    (h : ∀ call ∈ calls, Yields failure (fun added => ∀ c ∈ added, c.IsAsked)
      (ofCall? schema dialect m call)) :
    Yields failure AllAsked (ofCalls schema dialect m calls) := by
  induction calls with
  | nil => exact .ok trivial
  | cons call calls ih =>
    obtain ⟨hHead, hTail⟩ := List.forall_mem_cons.mp h
    rw [ofCalls]
    refine hHead.bind fun added hAdded => (ih hTail).bind fun rest hRest => .ok ?_
    rw [allAsked_iff] at hRest ⊢
    refine List.forall_mem_append.mpr ⟨?_, hRest⟩
    exact fun c hc => hAdded c (Option.mem_toList.mp hc)

theorem Refuses.imp {orders orders' : Prop} {e : Error} (hOrders : orders → orders')
    (h : Refuses orders e) : Refuses orders' e :=
  Or.imp_right (And.imp_right hOrders) h

theorem refuses_of_told {α : Type} {orders : Prop} {good : α → Prop} {x : Except Error α}
    (h : Yields IsTold good x) : Yields (Refuses orders) good x :=
  h.imp (fun _ => Or.inl) fun _ => id

theorem forall_some_isAsked {d : Condition} (h : d.IsAsked) : ∀ c ∈ some d, c.IsAsked := by
  rintro c ⟨⟩
  exact h

/-- **What filters ask for is taken or refused with a message**, unless a boolean is ordered. -/
theorem yields_ofCall? : ∀ (call : Call) (m : Model), call.IsAsked →
    Yields (Refuses (call.OrdersFlags schema m)) (fun added => ∀ c ∈ added, c.IsAsked)
      (ofCall? schema "sqlite" m call)
  | .equals name v, m, h => refuses_of_told <| (yields_column m name).bind fun c _ =>
      (c.yields_coerce h).bind fun _ hw => .ok (forall_some_isAsked (isAsked_ofEquality false hw))
  | .notEquals name v, m, h => refuses_of_told <| (yields_column m name).bind fun c _ =>
      (c.yields_coerce h).bind fun _ hw => .ok (forall_some_isAsked (isAsked_ofEquality true hw))
  | .among name vs, m, h => refuses_of_told <| (yields_column m name).bind fun c _ =>
      (c.yields_coerceAll h).bind fun _ hws => .ok (forall_some_isAsked hws)
  | .notAmong name vs, m, h => refuses_of_told <| (yields_column m name).bind fun c _ =>
      (c.yields_coerceAll h).bind fun _ hws => .ok (forall_some_isAsked hws)
  | .like name pattern foldCase, m, h => refuses_of_told <| (yields_column m name).bind fun c _ =>
      .ok (forall_some_isAsked trivial)
  | .isNull name, m, h => refuses_of_told <| (yields_column m name).bind fun c _ =>
      .ok (forall_some_isAsked trivial)
  | .notNull name, m, h => refuses_of_told <| (yields_column m name).bind fun c _ =>
      .ok (forall_some_isAsked trivial)
  | .between name lower upper, m, h => refuses_of_told <| (yields_column m name).bind fun c _ =>
      (c.yields_coerce_text h.1).bind fun _ hLower => (c.yields_coerce_text h.2).bind fun _ hUpper =>
        .ok (forall_some_isAsked ⟨hLower, hUpper⟩)
  | .documentHas name key v, m, h => refuses_of_told <| (yields_column m name).bind fun c _ =>
      .ok (forall_some_isAsked ⟨rfl, h⟩)
  | .compare name symbol v, m, h => by
    obtain ⟨comparison, hSymbol⟩ := Option.isSome_iff_exists.mp h.1
    refine (refuses_of_told (yields_column m name)).bind fun c hColumn => ?_
    simp only [hSymbol]
    have hTaken := c.yields_coerce h.2
    cases hCoerce : c.coerce v with
    | error e => exact .error (Or.inl (hCoerce ▸ hTaken).of_error)
    | ok w =>
      show Yields _ _ (ofOrder c comparison w >>= fun d => pure (some d))
      refine Yields.bind ((yields_ofOrder (hCoerce ▸ hTaken).of_ok).imp ?_ fun _ => id)
        fun d hd => .ok (forall_some_isAsked hd)
      rintro e ⟨rfl, b, rfl⟩
      exact Or.inr ⟨rfl, c, b, hColumn, hCoerce⟩
  | .any calls, m, h => by
    rw [Call.IsAsked, Call.allAsked_iff] at h
    have hOrders : ∀ call ∈ calls, call.OrdersFlags schema m →
        (Call.any calls).OrdersFlags schema m := fun call hMem hOrders =>
      Call.someOrderFlags_iff.mpr ⟨call, hMem, hOrders⟩
    have hCalls := yields_ofCalls fun call hMem => (yields_ofCall? call m (h call hMem)).imp
      (fun _ => Refuses.imp (hOrders call hMem)) fun _ => id
    rw [ofCall?]
    refine hCalls.bind fun conditions hConditions => ?_
    cases conditions with
    | nil => exact .ok fun c hc => absurd hc (Option.not_mem_none c)
    | cons d ds => exact .ok (forall_some_isAsked hConditions)
  | .has name calls, m, h => by
    rw [Call.IsAsked, Call.allAsked_iff] at h
    rw [ofCall?]
    cases hRelation : m.relation? name with
    | none => exact .error (Or.inl rfl)
    | some rel =>
      cases hTarget : schema.model? rel.target with
      | none =>
        simp only [hTarget, Option.bind_some, Option.map_none]
        exact .error (Or.inl rfl)
      | some target =>
        simp only [hTarget, Option.bind_some, Option.map_some]
        have hOrders : ∀ call ∈ calls, call.OrdersFlags schema target →
            (Call.has name calls).OrdersFlags schema m := fun call hMem hOrders =>
          ⟨rel, target, hRelation, hTarget, Call.someOrderFlags_iff.mpr ⟨call, hMem, hOrders⟩⟩
        have hCalls := yields_ofCalls fun call hMem => (yields_ofCall? call target (h call hMem)).imp
          (fun _ => Refuses.imp (hOrders call hMem)) fun _ => id
        exact hCalls.bind fun conditions hConditions => .ok (forall_some_isAsked hConditions)
  | .fail e, m, h => .error (Or.inl h)
  | .orderBy .., _, h => h.elim
  | .limit _, _, h => h.elim

/-- A call that has become a condition has not ordered a boolean. -/
theorem not_ordersFlags_of_ofCall? {dialect : String} : ∀ (call : Call) (m : Model)
    {added : Option Condition}, ofCall? schema dialect m call = .ok added →
      ¬ call.OrdersFlags schema m
  | .compare name symbol v, m, added, h => by
    rintro ⟨c, b, hColumn, hCoerce⟩
    cases adds_of_ofCall? h with
    | compare hFound _ hTaken hOrdered =>
      obtain rfl := Except.ok.inj (hColumn.symm.trans hFound)
      obtain rfl := Except.ok.inj (hCoerce.symm.trans hTaken)
      cases hOrdered
  | .any calls, m, added, h => by
    rw [Call.OrdersFlags, Call.someOrderFlags_iff]
    rintro ⟨call, hMem, hOrders⟩
    obtain ⟨conditions, hConditions, -⟩ := bind_eq_ok_iff.mp h
    obtain ⟨added, hAdded⟩ := exists_ofCalls_iff.mp ⟨conditions, hConditions⟩ call hMem
    exact not_ordersFlags_of_ofCall? call m hAdded hOrders
  | .has name calls, m, added, h => by
    rintro ⟨rel', target', hRelation', hTarget', hOrders⟩
    cases adds_of_ofCall? h with
    | has hRelation hTarget hConditions =>
      obtain rfl := Option.some.inj (hRelation.symm.trans hRelation')
      obtain rfl := Option.some.inj (hTarget.symm.trans hTarget')
      obtain ⟨call, hMem, hOrders⟩ := Call.someOrderFlags_iff.mp hOrders
      obtain ⟨added, hAdded⟩ := exists_ofCalls_iff.mp ⟨_, hConditions⟩ call hMem
      exact not_ordersFlags_of_ofCall? call _ hAdded hOrders
  | .equals .., _, _, _ => id
  | .notEquals .., _, _, _ => id
  | .among .., _, _, _ => id
  | .notAmong .., _, _, _ => id
  | .like .., _, _, _ => id
  | .isNull _, _, _, _ => id
  | .notNull _, _, _, _ => id
  | .between .., _, _, _ => id
  | .documentHas .., _, _, _ => id
  | .orderBy .., _, _, _ => id
  | .limit _, _, _, _ => id
  | .fail _, _, _, _ => id

end Condition

/-! ## Runs of calls -/

namespace Selection

variable {schema : Schema} {s : Selection} {call : Call} {calls : List Call}

/-- Is the selection one that filters have made of arguments, on a store of documents that are
searched by their elements? It has no cap. -/
structure IsAsked (s : Selection) : Prop where
  dialect : s.dialect = "sqlite"
  cap : s.cap = none
  conditions : Condition.AllAsked s.conditions

theorem isAsked_ofModel (m : Model) : (ofModel m "sqlite").IsAsked := ⟨rfl, rfl, trivial⟩

theorem IsAsked.gather (h : s.IsAsked) {conditions : List Condition}
    (hConditions : ∀ c ∈ conditions, c.IsAsked) : (s.gather conditions).IsAsked := by
  refine ⟨h.dialect, h.cap, Condition.allAsked_iff.mpr (List.forall_mem_append.mpr ⟨?_, hConditions⟩)⟩
  exact Condition.allAsked_iff.mp h.conditions

theorem yields_call (hSelection : s.IsAsked) (hCall : call.IsAsked) :
    Yields (Condition.Refuses (call.OrdersFlags schema s.model))
      (fun s' => s'.IsAsked ∧ s'.model = s.model ∧ ¬ call.OrdersFlags schema s.model)
      (s.call schema call) := by
  have hAdded : Yields (Condition.Refuses (call.OrdersFlags schema s.model))
      (fun added => ∀ c ∈ added, c.IsAsked)
      (Condition.ofCall? schema "sqlite" s.model call) :=
    Condition.yields_ofCall? call s.model hCall
  rw [call_of_isFilter hCall.isFilter hSelection.cap, hSelection.dialect]
  cases hCondition : Condition.ofCall? schema "sqlite" s.model call with
  | error e => exact .error (hCondition ▸ hAdded).of_error
  | ok added =>
    refine .ok ⟨hSelection.gather ?_, rfl, Condition.not_ordersFlags_of_ofCall? call s.model hCondition⟩
    exact fun c hc => (hCondition ▸ hAdded).of_ok c (Option.mem_toList.mp hc)

/-- **A run of calls that filters make** is refused with a message, unless one of them orders a
boolean; and if none is refused, none has ordered a boolean. -/
theorem yields_callAll? (hSelection : s.IsAsked) (hCalls : ∀ call ∈ calls, call.IsAsked) :
    Yields (Condition.Refuses (Call.SomeOrderFlags schema s.model calls))
      (fun s' => s'.IsAsked ∧ s'.model = s.model ∧ ¬ Call.SomeOrderFlags schema s.model calls)
      (s.callAll? schema calls) := by
  induction calls generalizing s with
  | nil => exact .ok ⟨hSelection, rfl, id⟩
  | cons call calls ih =>
    obtain ⟨hHead, hTail⟩ := List.forall_mem_cons.mp hCalls
    have hStep : s.callAll? schema (call :: calls) =
        s.call schema call >>= fun t => t.callAll? schema calls := by
      rw [callAll?, callAll]
      cases s.call schema call <;> rfl
    rw [hStep]
    refine Yields.bind ((yields_call hSelection hHead).imp (fun _ => Condition.Refuses.imp Or.inl)
      fun _ => id) fun t ht => ?_
    obtain ⟨hSelection', hModel, hHeadFree⟩ := ht
    rw [← hModel] at hHeadFree ⊢
    refine (ih hSelection' hTail).imp (fun _ => Condition.Refuses.imp Or.inr) fun u hu => ?_
    exact ⟨hu.1, hu.2.1, not_or.mpr ⟨hHeadFree, hu.2.2⟩⟩

end Selection

end Winnow
