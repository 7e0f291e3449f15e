import Winnow.Http.Site
import Winnow.Sample.Models

/-!
# Winnow.Sample.Site — the shop on the web

Six resources under paths of their own: the products as they are, with edited filters, in a scope,
and with a serializer that they do not have; the categories; and the tickets, two levels deep.
-/

namespace Winnow.Sample

/-- Paths with their titles. -/
def titles (columns : List (String × String)) : Value :=
  .mapping (columns.map fun c => (.text c.1, .text c.2))

/-- The products, under a path. -/
def productResource (path : String) : Resource :=
  { Resource.ofModel product with
    path := path
    termFields := .tuple [.text "name", .text "description"]
    csvColumns := titles [("name", "Name"), ("price", "Price"), ("status", "Status")]
    csvFile := "products.csv" }

/-- The products that are for sale. -/
def activeProducts : Resource :=
  { productResource "active-products" with
    filterEdits := [.set (.text "status") (.mapping [(.text "eq", .text "active")])] }

/-- The scope of cheap products. -/
def cheapScope : List Step := [.call (.compare "price" "<" (.int 110))]

/-- The cheap products. -/
def cheapProducts : Resource :=
  { productResource "cheap-products" with
    pageSize := .int 2
    searchScope := cheapScope
    optionsScope := cheapScope }

/-- The products with a serializer that they do not have. -/
def brokenProducts : Resource :=
  { productResource "broken-products" with serializer? := some "to_missing" }

/-- The categories. -/
def categoryResource : Resource :=
  { Resource.ofModel category with path := "categories", csvColumns := .list [.text "name"] }

/-- The tickets. -/
def ticketResource : Resource :=
  { Resource.ofModel ticket with
    path := "help/tickets"
    termFields := .tuple [.text "title"]
    termField? := some "q"
    exportSerializer? := some "to_raw"
    csvColumns := titles [("title", "Title"), ("state", "State"), ("owner.name", "Owner")] }

/-- The site of the shop. -/
def site : Http.Site :=
  ⟨[productResource "products", activeProducts, cheapProducts, brokenProducts, categoryResource,
    ticketResource]⟩

end Winnow.Sample
