import Winnow.Error
import Winnow.Number.Numeral
import Winnow.Value.Text

/-!
# Winnow.Query.Paginator — pages of rows

A paginator reads rows from a source, serializes them and keeps them, in one of two modes. In paged
mode it counts the matching rows, reads one page and keeps an account of both. In full mode it reads
all rows, counts nothing and keeps no account. A build forgets the build before it, whether it
succeeds or not.

The number of pages is the quotient of two integers, rounded to the nearest double and then up.
-/

namespace Winnow

/-- What a paginator reads from: the number of rows, the rows of a page by page size and page
number, all rows, and the value of a row by the name of a serializer. -/
structure Source (ρ : Type) where
  count : Except Error Int
  page : Int → Int → Except Error (List ρ)
  all : Except Error (List ρ)
  serialize : String → ρ → Except Error Value

/-- The account of a page: its number and size, and how many pages and rows there are. -/
structure PageInfo where
  current : Int
  perPage : Int
  pagesCount : Int
  count : Int
  deriving DecidableEq

/-- The account as a value. -/
def PageInfo.toValue (i : PageInfo) : Value :=
  .mapping [(.text "current", .int i.current), (.text "perPage", .int i.perPage),
    (.text "pagesCount", .int i.pagesCount), (.text "count", .int i.count)]

/-- What a paginator was asked to read, in order. -/
inductive Reading where
  | count
  | page (perPage page : Int)
  | all
  deriving DecidableEq

/-- How rows are to be paged, and by which serializer they become values. All rows are read instead
of a page if `skip` is set. -/
structure PageRequest where
  perPage : Value
  page : Value
  serializer : String
  skip : Bool

/-- A paginator: the rows of the last build, serialized, and in paged mode the account of them. -/
structure Paginator where
  rows : List Value
  info? : Option PageInfo

namespace Paginator

/-- A paginator that holds nothing. -/
def empty : Paginator := ⟨[], none⟩

/-- The account as a value; the empty mapping if there is none. -/
def infoValue (p : Paginator) : Value :=
  match p.info? with
  | some i => i.toValue
  | none => .mapping []

/-- The page size in a value: a positive integer. -/
def pageSize (v : Value) : Except Error Int :=
  match v with
  | .int n => if 0 < n then .ok n else .error (.invalidPageSize v.literal)
  | v => .error (.invalidPageSize v.literal)

/-- A value converted to an integer: numbers lose their fraction, texts are read. -/
def toInt : Value → Except Error Int
  | .bool b => .ok (if b then 1 else 0)
  | .int n => .ok n
  | .double (.infinite _) => .error .overflow
  | .double .nan => .error .meaningless
  | .double x => .ok (x.truncate?.getD 0)
  | .decimal (.infinite _) => .error .overflow
  | .decimal d => match d.ratio? with
    | some (num, den) => .ok (Int.tdiv num den)
    | none => .error .meaningless
  | .uuid u => .ok u.number
  | v => match v.asText? with
    | some s => match Number.readInt? s.toList with
      | some n => .ok n
      | none => .error .meaningless
    | none => .error .wrongType

/-- The page number in a value: at least one, and one if the value does not count. -/
def pageNumber (v : Value) : Except Error Int := do
  if v.isTruthy then return max (← toInt v) 1 else return 1

/-- The number of pages for so many rows, where the page size is positive. -/
def pagesCount (count perPage : Int) : Except Error Int :=
  match (Binary64.round (count < 0) count.natAbs perPage.toNat).ceiling? with
  | some n => .ok n
  | none => .error .overflow

/-- What a build leaves behind: what was read, the paginator, and the error if there was one. -/
structure Built where
  readings : List Reading
  paginator : Paginator
  error? : Option Error

/-- A build that failed before there were rows. -/
def Built.failed (readings : List Reading) (e : Error) : Built := ⟨readings, empty, some e⟩

/-- The serialized rows of what was read. -/
def serializeAll {ρ : Type} (src : Source ρ) (serializer : String) (rows : Except Error (List ρ)) :
    Except Error (List Value) := do
  (← rows).mapM (src.serialize serializer)

/-- Read all rows. -/
def buildFull {ρ : Type} (src : Source ρ) (r : PageRequest) : Built :=
  match serializeAll src r.serializer src.all with
  | .error e => .failed [.all] e
  | .ok rows => ⟨[.all], ⟨rows, none⟩, none⟩

/-- Count the rows and read one page. The rows are kept even if their account cannot be given. -/
def buildPage {ρ : Type} (src : Source ρ) (r : PageRequest) : Built :=
  match pageSize r.perPage with
  | .error e => .failed [] e
  | .ok perPage => match pageNumber r.page with
    | .error e => .failed [] e
    | .ok page => match src.count with
      | .error e => .failed [.count] e
      | .ok count =>
        let readings := [.count, .page perPage page]
        match serializeAll src r.serializer (src.page perPage page) with
        | .error e => .failed readings e
        | .ok rows => match pagesCount count perPage with
          | .error e => ⟨readings, ⟨rows, none⟩, some e⟩
          | .ok pages => ⟨readings, ⟨rows, some ⟨page, perPage, pages, count⟩⟩, none⟩

/-- Read as the request asks. -/
def build {ρ : Type} (src : Source ρ) (r : PageRequest) : Built :=
  if r.skip then buildFull src r else buildPage src r

/-- The paginator after a build, or why it failed. -/
def Built.result (b : Built) : Except Error Paginator :=
  match b.error? with
  | some e => .error e
  | none => .ok b.paginator

end Paginator

end Winnow
