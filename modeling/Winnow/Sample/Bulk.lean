import Winnow.Sample.Cells

/-!
# Winnow.Sample.Bulk — one category and many products

Enough products for several pages. They are alike but for a few: the first five have another name,
the first two are not for sale, the first three have a category, one is cheap, one has a
description.
-/

namespace Winnow.Sample

/-- The product with the number `i`, counted from zero; its key is one more. -/
def bulkProduct (i : Nat) : Row :=
  let number := Text.paddedNat 2 (i + 1)
  ⟨i + 1, [("name", text ((if i < 5 then "Galaxy " else "Product ") ++ number)),
    ("description", if i = 10 then text "Flagship" else .null),
    ("price", amount ((if i = 2 then 50 else 100 + i) * 100)),
    ("stock", .null),
    ("status", text (if i < 2 then "inactive" else "active")),
    ("attributes", .null),
    ("category_id", if i < 3 then int 1 else .null),
    ("created_at", moment 2024 1 (1 + i / 24) (i % 24) 0 0 0),
    ("external_id", serial 0xB (i + 1))]⟩

/-- The database of many products. -/
def bulk : Database :=
  ⟨schema, [("categories", [named 1 "Phones" (serial 0xA 1)]),
    ("products", (List.range 45).map bulkProduct)]⟩

end Winnow.Sample
