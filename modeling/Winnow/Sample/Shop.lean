import Winnow.Sample.Cells

/-!
# Winnow.Sample.Shop — the rows of a small shop

A few rows of every model, chosen to differ in what conditions ask about: missing cells, empty
texts, letters beyond ASCII, the marks of patterns, documents of several shapes, points of time on
both sides of the ends of months.
-/

namespace Winnow.Sample

/-- The categories. -/
def categories : List Row :=
  [named 1 "Phones" (serial 0xA 1), named 2 "Laptops" (serial 0xA 2),
    named 3 "Éclairs" (serial 0xA 3), named 4 "Empty_box" (serial 0xA 4)]

/-- The cells of a product. -/
def productRow (key : Nat) (name : String) (description price stock : Cell) (status : String)
    (attributes category createdAt : Cell) : Row :=
  ⟨key, [("name", text name), ("description", description), ("price", price), ("stock", stock),
    ("status", text status), ("attributes", attributes), ("category_id", category),
    ("created_at", createdAt), ("external_id", serial 0xB key)]⟩

/-- The products. -/
def products : List Row :=
  [productRow 1 "Galaxy S24" .null (amount 99900) .null "active"
      (doc [("color", .text "black"), ("size", .text "M")]) (int 1) (moment 2024 6 1 0 0 0 0),
    productRow 2 "Galaxy A15" (text "budget phone") (amount 19900) (int 5) "active"
      (doc [("color", .text "blue"), ("size", .text "S"), ("tags", .array [.text "green"])]) (int 1)
      (moment 2024 6 30 23 30 0 0),
    productRow 3 "ThinkPad X1" (text "Galaxy of ports") (amount 189900) (int 15) "inactive"
      (doc [("color", .text "black"), ("size", .text "L")]) (int 2) (moment 2024 7 1 0 0 0 0),
    productRow 4 "MacBook Air" (text "thin, light") (amount 129900) (int 15) "active"
      (doc [("color", .text "silver"), ("tags", .array [.text "red", .text "blue"])]) (int 2)
      (moment 2024 5 31 23 59 59 0),
    productRow 5 "Loose cable" (text "") (amount 900) .null "active" (.document .null) .null
      (moment 2024 1 1 0 0 0 0),
    productRow 6 "100% \"cotton\" case" (text "line1\nline2") (amount 1250) (int 0) "pending"
      (doc [("color", .text "red"), ("size", .int 5),
        ("dims", .object [("w", .int 10), ("h", .text "20")]), ("washable", .bool true)])
      (int 1) (moment 2024 2 29 12 34 56 789000),
    productRow 7 "éclair GÉANT" (text "Crème, sucre") (amount 314) (int (-2)) "Active" (doc [])
      (int 3) (moment 2023 12 31 23 59 59 999999),
    productRow 8 "snake_case_cable" (text "under_score") (amount 0) (int 10) "archived"
      (doc [("tags", .array [.int 1, .double (.ofDecimal false 25 (-1)), .null, .text "5"]),
        ("size", .text "5"), ("color", .null)])
      .null (moment 2024 6 15 8 0 0 0),
    productRow 9 "12345" (text "numeric name") (amount 100000000099) (int 2147483647) "active"
      (doc [("color", .array [.text "red", .text "black"]), ("a b", .text "spaced")]) (int 2)
      (moment 2030 1 1 0 0 0 0)]

/-- The customers. -/
def customers : List Row :=
  [named 1 "John Smith" (serial 0xC 1), named 2 "Jane Doe" (serial 0xC 2),
    named 3 "O'Brien, \"Bob\"" (serial 0xC 3)]

/-- The cells of an order. -/
def orderRow (key : Nat) (createdAt updatedAt : Cell) : Row :=
  ⟨key, [("customer_id", int key), ("external_id", serial 0xD key), ("created_at", createdAt),
    ("updated_at", updatedAt)]⟩

/-- The orders. -/
def orders : List Row :=
  [orderRow 1 (moment 2024 3 1 10 0 0 0) (moment 2024 3 2 10 0 0 0),
    orderRow 2 (moment 2024 3 31 23 59 59 0) (moment 2024 4 1 0 0 0 0),
    orderRow 3 (moment 2024 4 1 0 0 0 0) (moment 2024 4 1 0 0 0 500000)]

/-- The cells of an invoice. -/
def invoiceRow (key : Int) (number : String) (order : Int) : Row :=
  ⟨key, [("number", text number), ("order_id", int order)]⟩

/-- The invoices. -/
def invoices : List Row :=
  [invoiceRow 1 "INV-1" 1, invoiceRow 2 "INV-2" 2, invoiceRow 3 "INV-3" 1, invoiceRow 4 "inv-10" 3]

/-- The cells of a ticket. -/
def ticketRow (key : Nat) (title stateName : String) (urgent score due seenAt ref owner : Cell) :
    Row :=
  ⟨key, [("title", text title), ("state", state stateName), ("urgent", urgent), ("score", score),
    ("due", due), ("seen_at", seenAt), ("ref", ref), ("secret", text ("s" ++ toString key)),
    ("owner_id", owner)]⟩

/-- The tickets. -/
def tickets : List Row :=
  [ticketRow 1 "Broken screen" "OPEN" (flag true) (real false 15 (-1)) (day 2024 2 29)
      (moment 2024 2 28 23 0 0 0) (serial 0xE 1) (int 1),
    ticketRow 2 "Late delivery" "CLOSED" (flag false) (real true 25 (-2)) (day 2024 3 1) .null
      .null (int 2),
    ticketRow 3 "=SUM(A1)" "OPEN" .null .null .null (moment 2024 3 1 0 0 0 1) (serial 0xE 3)
      .null,
    ticketRow 4 "" "ON_HOLD" (flag true) (real false 1 16) (day 1999 12 31)
      (moment 1999 12 31 23 59 59 0) (serial 0xE 4) (int 3)]

/-- The shop. -/
def shop : Database :=
  ⟨schema, [("categories", categories), ("products", products), ("customers", customers),
    ("orders", orders), ("invoices", invoices), ("tickets", tickets)]⟩

/-- The same tables without rows. -/
def emptyShop : Database := ⟨schema, []⟩

end Winnow.Sample
