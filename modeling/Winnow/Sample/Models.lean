import Winnow.Store.Database

/-!
# Winnow.Sample.Models — a small shop

Six models that the sample databases have rows of: categories and their products, customers with
their orders and invoices, and tickets of customers. Tickets hide two columns and have three
serializers.
-/

namespace Winnow.Sample

/-- The serializer of records, which every model has. -/
def recordSerializer : String × Serializer := ("to_dict", .record)

/-- Categories of products. -/
def category : Model where
  name := "Category"
  table := "categories"
  columns := [⟨"id", .integer⟩, ⟨"name", .text⟩, ⟨"external_id", .uuid⟩]
  relations := [⟨"products", "Product", true, "category_id"⟩]
  unique := ["external_id"]
  hidden := []
  serializers := [recordSerializer]

/-- Products. -/
def product : Model where
  name := "Product"
  table := "products"
  columns := [⟨"id", .integer⟩, ⟨"name", .text⟩, ⟨"description", .text⟩, ⟨"price", .decimal⟩,
    ⟨"stock", .integer⟩, ⟨"status", .text⟩, ⟨"attributes", .document⟩, ⟨"category_id", .integer⟩,
    ⟨"created_at", .dateTime false⟩, ⟨"external_id", .uuid⟩]
  relations := [⟨"category", "Category", false, "category_id"⟩]
  unique := ["external_id"]
  hidden := []
  serializers := [recordSerializer,
    ("to_card", .fields [("name", "name"), ("category", "category.name")])]

/-- Customers. -/
def customer : Model where
  name := "Customer"
  table := "customers"
  columns := [⟨"id", .integer⟩, ⟨"name", .text⟩, ⟨"external_id", .uuid⟩]
  relations := []
  unique := ["external_id"]
  hidden := []
  serializers := [recordSerializer]

/-- Orders of customers. -/
def order : Model where
  name := "Order"
  table := "orders"
  columns := [⟨"id", .integer⟩, ⟨"customer_id", .integer⟩, ⟨"external_id", .uuid⟩,
    ⟨"created_at", .dateTime true⟩, ⟨"updated_at", .dateTime true⟩]
  relations := [⟨"customer", "Customer", false, "customer_id"⟩]
  unique := ["external_id"]
  hidden := []
  serializers := [recordSerializer]

/-- Invoices of orders. -/
def invoice : Model where
  name := "Invoice"
  table := "invoices"
  columns := [⟨"id", .integer⟩, ⟨"number", .text⟩, ⟨"order_id", .integer⟩]
  relations := [⟨"order", "Order", false, "order_id"⟩]
  unique := []
  hidden := []
  serializers := [recordSerializer]

/-- Tickets of customers. -/
def ticket : Model where
  name := "Ticket"
  table := "tickets"
  columns := [⟨"id", .integer⟩, ⟨"title", .text⟩, ⟨"state", .enumeration⟩, ⟨"urgent", .boolean⟩,
    ⟨"score", .double⟩, ⟨"due", .date⟩, ⟨"seen_at", .dateTime true⟩, ⟨"ref", .uuid⟩,
    ⟨"secret", .text⟩, ⟨"owner_id", .integer⟩]
  relations := [⟨"owner", "Customer", false, "owner_id"⟩]
  unique := []
  hidden := ["secret", "ref"]
  serializers := [recordSerializer, ("to_self", .itself),
    ("to_raw", .fields [("id", "id"), ("title", "title"), ("state", "state"), ("urgent", "urgent"),
      ("score", "score"), ("owner", "owner")])]

/-- The models of the shop. -/
def schema : Schema := [category, product, customer, order, invoice, ticket]

/-- The states of a ticket. -/
def ticketState : Enumeration where
  name := "TicketState"
  members := [("OPEN", "open"), ("CLOSED", "closed"), ("ON_HOLD", "on-hold")]

/-- A column of every kind, for arguments to be tried on. -/
def trialColumns : List Column :=
  [⟨"bool_col", .boolean⟩, ⟨"int_col", .integer⟩, ⟨"big_col", .integer⟩, ⟨"float_col", .double⟩,
    ⟨"floatnum_col", .double⟩, ⟨"numeric_col", .decimal⟩, ⟨"date_col", .date⟩,
    ⟨"dt_col", .dateTime true⟩, ⟨"naive_dt_col", .dateTime false⟩, ⟨"uuid_col", .uuid⟩,
    ⟨"struuid_col", .text⟩, ⟨"text_col", .text⟩, ⟨"longtext_col", .text⟩, ⟨"json_col", .document⟩,
    ⟨"enum_col", .enumeration⟩, ⟨"time_col", .other⟩, ⟨"interval_col", .other⟩,
    ⟨"blob_col", .other⟩, ⟨"relation", .other⟩]

end Winnow.Sample
