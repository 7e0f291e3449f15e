import Winnow.Query.Paginator
import Winnow.Request.Search
import Winnow.Service.Resource
import Winnow.Store.Query
import Winnow.Store.Serialize

/-!
# Winnow.Service.Search — searching a resource

A search gathers a selection in four steps, scope, filters, order and cap, and gives one page of it,
or all its rows without an account of them.
-/

namespace Winnow

/-- The dialect of the store. -/
def Database.dialect : String := "sqlite"

/-- A selection as a source of pages. -/
def Selection.source (db : Database) (s : Selection) : Source Row where
  count := (s.count db).map Int.ofNat
  page := s.page db
  all := s.all db
  serialize := db.serialize s.model

namespace Resource

/-- The selection after the steps of a scope. -/
def inScope (r : Resource) (db : Database) (scope : List Step) : Except Error Selection :=
  (Selection.ofModel r.model Database.dialect).callAll? db.schema
    (Step.callsOfAll Database.dialect scope)

/-- The selection after the filter map of a request. -/
def filtered (r : Resource) (db : Database) (scope : List Step) (q : SearchRequest) :
    Except Error Selection := do
  let s ← r.inScope db scope
  s.callAll? db.schema (r.filterOptions.calls Database.dialect (.mapping q.filters))

/-- The calls that cap a selection as a request asks. -/
def capCalls (q : SearchRequest) : List Call :=
  match q.limit? with
  | some n => (Value.int n).capCalls
  | none => []

/-- The selection that a request asks for. -/
def selection (r : Resource) (db : Database) (scope : List Step) (q : SearchRequest) :
    Except Error Selection := do
  let s ← r.filtered db scope q
  let s ← s.callAll? db.schema (Value.text q.sort).sortCalls
  s.callAll? db.schema (capCalls q)

/-- The page of a selection that a request asks for, where `perPage` is the page size if it asks for
none. -/
def paginate (db : Database) (s : Selection) (perPage : Value) (serializer : String)
    (q : SearchRequest) : Except Error Paginator :=
  (Paginator.build (s.source db)
    ⟨(q.perPage?.map Value.int).getD perPage, .int q.page, serializer, q.skipPagination⟩).result

/-- The rows that a search gives, with their account. -/
def searchPage (r : Resource) (db : Database) (q : SearchRequest) : Except Error Paginator := do
  paginate db (← r.selection db r.searchScope q) r.perPage r.serializer q

/-- The answer of an action: its rows and what is said of them. -/
def answer (rows : List Value) (about : List (Value × Value)) : Value :=
  .mapping [(.text "status", .text "success"), (.text "data", .list rows),
    (.text "meta", .mapping about)]

/-- The answer to a search. -/
def search (r : Resource) (db : Database) (q : SearchRequest) : Except Error Value := do
  let p ← r.searchPage db q
  return answer p.rows [(.text "pagination", p.infoValue)]

end Resource

end Winnow
