import Winnow.Query.Step
import Winnow.Settings
import Winnow.Store.Schema

/-!
# Winnow.Service.Resource — a model as requests see it

A resource says how the rows of a model are searched, offered as options and exported: which fields
hold the search term, how large a page is, how rows are serialized, which columns an export has. It
may confine each of the three actions to a scope, edit the filter maps of requests and the list of
options. What it leaves open, or sets to nothing, falls back to the defaults.
-/

namespace Winnow

/-- The columns of an export by the paths of their cells, with or without a line of titles. -/
inductive CsvColumns where
  | untitled (paths : List Value)
  | titled (columns : List (Value × Value))

namespace CsvColumns

/-- The columns that are declared by a value: a mapping from paths to titles, or what yields paths.
-/
def ofValue (v : Value) : Except Error CsvColumns :=
  match v with
  | .mapping columns => .ok (titled columns)
  | v => match v.iterated? with
    | some paths => .ok (untitled paths)
    | none => .error .wrongType

/-- The paths of the cells. -/
def paths : CsvColumns → List Value
  | untitled ps => ps
  | titled cs => cs.map Prod.fst

/-- The titles. -/
def titles : CsvColumns → List Value
  | untitled _ => []
  | titled cs => cs.map Prod.snd

end CsvColumns

/-- One edit of the list of options: one more at the end, or the reverse order. -/
inductive OptionEdit where
  | append (label value : Value)
  | reverse

namespace OptionEdit

/-- A choice: its label and its value. -/
def choice (label value : Value) : Value :=
  .mapping [(.text "label", label), (.text "value", value)]

/-- The choices after an edit. -/
def apply (rows : List Value) : OptionEdit → List Value
  | append label value => rows ++ [choice label value]
  | reverse => rows.reverse

end OptionEdit

/-- The declaration of a resource, which shows the rows of a model. An empty path stands for the
name of the table. The search term is that of the parameter `termField?`, sought in the fields that
`termFields` yields; `csvColumns` declares the columns of an export, and `csvFile` is the end of the
name of its file. Each action has a scope, and searches and exports have a serializer. -/
structure Resource where
  model : Model
  path : String
  termFields : Value
  termField? : Option String
  pageSize : Value
  serializer? : Option String
  exportSerializer? : Option String
  csvColumns : Value
  csvFile : String
  searchScope : List Step
  exportScope : List Step
  optionsScope : List Step
  filterEdits : List Filter.Edit
  optionEdits : List OptionEdit

namespace Resource

/-- The resource of a model that declares nothing. -/
def ofModel (m : Model) : Resource :=
  ⟨m, "", .tuple [], none, .null, none, none, .tuple [], Settings.exportFile, [], [], [], [], []⟩

/-- A declared text, or the default if there is none. -/
def orDefault (declared? : Option String) (default : String) : String :=
  match declared? with
  | some s => if s.isEmpty then default else s
  | none => default

/-- The name of the resource. -/
def name (r : Resource) : String := if r.path.isEmpty then r.model.table else r.path

/-- The parameter of the search term. -/
def termField (r : Resource) : String := orDefault r.termField? Settings.termField

/-- The page size of searches. -/
def perPage (r : Resource) : Value :=
  if r.pageSize.isTruthy then r.pageSize else .int Settings.perPage

/-- The serializer of searched rows. -/
def serializer (r : Resource) : String := orDefault r.serializer? Settings.serializer

/-- The serializer of exported rows. -/
def exportSerializer (r : Resource) : String := orDefault r.exportSerializer? r.serializer

/-- How the filter maps of requests are read. -/
def filterOptions (r : Resource) : Filter.Options :=
  { Filter.Options.default with
    termFields := r.termFields
    termKey := r.termField
    edits := r.filterEdits }

end Resource

end Winnow
