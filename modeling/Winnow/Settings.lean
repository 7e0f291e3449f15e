import Winnow.Text.Blank
import Winnow.Text.Split

/-!
# Winnow.Settings — defaults

What holds where neither a request nor a resource says otherwise.
-/

namespace Winnow.Settings

/-- The parameter that holds a search term. -/
def termField : String := "term"

/-- The column that stands for the key at the end of a path through relations. -/
def externalIdColumn : String := "external_id"

/-- The serializer of rows. -/
def serializer : String := "to_dict"

/-- The number of rows of a page. -/
def perPage : Int := 40

/-- The number of rows of an export. -/
def exportPerPage : Int := 9999999

/-- The column whose cells are the values of options. -/
def optionValue : String := "id"

/-- The name of the file of an export. -/
def exportFile : String := "export.csv"

/-- The text of the allowed origins. -/
def originText : String := "http://localhost:3000"

/-- The allowed origins in a text: the pieces between commas, trimmed, without the empty ones. -/
def origins (s : String) : List String :=
  ((Text.split ',' s).map Text.trim).filter (!·.isEmpty)

/-- The origins that may ask before a request. -/
def allowedOrigins : List String := origins originText

end Winnow.Settings
