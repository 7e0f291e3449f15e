import Winnow.Error
import Winnow.Number.Numeral
import Winnow.Request.BracketKey
import Winnow.Settings
import Winnow.Text.Case
import Winnow.Value.Text

/-!
# Winnow.Request.Search — search requests

A search request says which rows are wanted, in which order and how many of them. It is read from
the parameters of a request, where page size, page number and cap are held against their bounds one
after the other, or from named parts that have types already.
-/

namespace Winnow

/-- A search request: the filter map, the sort text, and the page or, if pagination is skipped, all
rows. The page size and the greatest number of rows are there if they are asked for. -/
structure SearchRequest where
  filters : List (Value × Value)
  sort : String
  perPage? : Option Int
  page : Int
  skipPagination : Bool
  limit? : Option Int

namespace SearchRequest

/-- The request that asks for nothing. -/
def empty : SearchRequest := ⟨[], "", none, 1, false, none⟩

/-! ## From parameters -/

/-- The texts that switch pagination off. -/
def skipWords : List String := ["1", "true", "yes", "y", "on"]

/-- The integer in a parameter; none if the parameter is missing or blank. -/
def intParam (name : String) (p : Option Param) : Except Error (Option Int) :=
  match p with
  | none => .ok none
  | some p =>
    let shown := p.toValue.display
    if Text.isAllBlank shown then .ok none
    else match Number.readInt? (Text.trim shown).toList with
      | some n => .ok (some n)
      | none => .error (.notInteger name shown)

/-- The filter map of the parameters: the node of the filters, and the search term unless a filter
has its name. -/
def filterMap (termKey : String) (params : List (String × Param)) : List (Value × Value) :=
  let filters := Param.entries (Param.children (Param.get? "filter" params))
  match Param.get? termKey params with
  | some (.text term) =>
    if (Value.field? termKey filters).isSome then filters
    else filters ++ [(.text termKey, .text term)]
  | _ => filters

/-- The page size in the parameters. -/
def perPageParam (params : List (String × Param)) : Except Error (Option Int) := do
  match ← intParam "perPage" (Param.get? "perPage" params) with
  | some n => if n < 1 then .error (.invalidPageSize (Text.intText n)) else return some n
  | none => return none

/-- The page number in the parameters. -/
def pageParam (params : List (String × Param)) : Except Error Int := do
  match ← intParam "page" (Param.get? "page" params) with
  | some n => if n < 1 then .error (.invalidPage (Text.intText n)) else return n
  | none => return 1

/-- The sort text in the parameters. -/
def sortParam (params : List (String × Param)) : String :=
  match Param.get? "sort" params with
  | some (.text s) => s
  | _ => ""

/-- Is pagination switched off in the parameters? -/
def skipParam (params : List (String × Param)) : Bool :=
  match Param.get? "skipPagination" params with
  | some p => skipWords.contains (Text.lower (Text.trim p.toValue.displayOrEmpty))
  | none => false

/-- The request that a tree of parameters spells. -/
def ofParams (termKey : String) (params : List (String × Param)) : Except Error SearchRequest := do
  let perPage? ← perPageParam params
  let page ← pageParam params
  let limit? ← intParam "limit" (Param.get? "limit" params)
  return ⟨filterMap termKey params, sortParam params, perPage?, page, skipParam params, limit?⟩

/-- The name of the parameter of the search term: the default if none is declared. -/
def termKeyOf (declared? : Option String) : String :=
  match declared? with
  | some s => if s.isEmpty then Settings.termField else s
  | none => Settings.termField

/-- The request that pairs of texts spell. -/
def ofPairs (termField? : Option String) (pairs : List (String × String)) :
    Except Error SearchRequest :=
  ofParams (termKeyOf termField?) (Param.ofPairs pairs)

/-! ## From typed parts -/

/-- A numeral without the zeros in front of it and the underscores among them. One zero is left
before a point and where there is nothing else, if it is the last of them; a sign may come after
zeros, too. -/
def dropZeros? (cs : List Char) : Option (List Char) :=
  match cs with
  | '0' :: rest =>
    let zeros := '0' :: rest.takeWhile fun c => c == '0' || c == '_'
    let last := zeros.getLast?.toList
    match rest.dropWhile fun c => c == '0' || c == '_' with
    | [] => some last
    | '.' :: more => some (last ++ '.' :: more)
    | c :: more => if c.isDigit || c == '-' then some (c :: more) else none
  | c :: rest => if c.isDigit || c == '-' then some (c :: rest) else none
  | [] => none

/-- A numeral without its fraction, if that is zero. -/
def dropZeroFraction (cs : List Char) : List Char :=
  if (cs.dropWhile (· != '.')).tail.all (· == '0') then cs.takeWhile (· != '.') else cs

/-- A numeral without its underscores, if each of them stands alone between other characters. -/
def dropUnderscores? (cs : List Char) : Option (List Char) :=
  let pieces := Text.splitChars '_' cs
  if pieces.any List.isEmpty then none else some pieces.flatten

/-- The integer of a numeral that has no sign but a minus and no zero in front. -/
def strictInt? (cs : List Char) : Option Int :=
  let (negative, ds) := match cs with
    | '-' :: ds => (true, ds)
    | ds => (false, ds)
  let n := Number.digitsValue ds
  if ds.isEmpty || !ds.all Char.isDigit || (ds.head? = some '0' && ds.length > 1)
    || Number.maxDigits < cs.length then none
  else some (if negative then -(n : Int) else n)

/-- The integer that a numeral of ASCII spells, where a fraction of zeros may follow. -/
def integralText? (s : String) : Option Int := do
  let cs := Text.stripChars (fun c => Text.isBlank c && !Text.isSeparator c) s.toList
  let cs := match cs with
    | '+' :: rest => rest
    | cs => cs
  strictInt? (← dropUnderscores? (dropZeroFraction (← dropZeros? cs)))

/-- Does a double lie between the integers of 64 bits? -/
def isShort (x : Binary64) : Bool :=
  Binary64.compareInt? (-(Number.pow2 63 : Int)) x == some .lt &&
    Binary64.compareInt? (Number.pow2 63) x == some .gt

/-- The integer that a typed part stands for, if it stands for one. -/
def partInt? : Value → Option Int
  | .bool b => some (if b then 1 else 0)
  | .int n => some n
  | .double x => if x.isIntegral && isShort x then x.truncate? else none
  | .decimal d => match d.ratio? with
    | some (num, den) => if num % (den : Int) = 0 then some (num / (den : Int)) else none
    | none => none
  | v => v.asText?.bind integralText?

/-- An integer part. -/
def partInt (v : Value) : Except Error Int :=
  match partInt? v with
  | some n => .ok n
  | none => .error .malformedRequest

/-- An integer part that may be null. -/
def partIntOrNull : Value → Except Error (Option Int)
  | .null => .ok none
  | v => (partInt v).map some

/-- A cap. Members of enumerations pass for one and cap nothing. -/
def partCap : Value → Except Error (Option Int)
  | .member _ => .ok none
  | v => partIntOrNull v

/-- The truth that a double stands for: zero and one stand for one. -/
def doubleBool? (x : Binary64) : Option Bool :=
  if x.isZero then some false
  else if Binary64.compareInt? 1 x = some .eq then some true
  else none

/-- The texts that stand for true. -/
def trueWords : List String := ["1", "on", "t", "true", "y", "yes"]

/-- The texts that stand for false. -/
def falseWords : List String := ["0", "off", "f", "false", "n", "no"]

/-- The truth that a text stands for, in any case of its letters. -/
def textBool? (s : String) : Option Bool :=
  let word := String.ofList (Number.foldAscii s.toList)
  if falseWords.contains word then some false
  else if trueWords.contains word then some true
  else none

/-- The truth that a typed part stands for, if it stands for one. -/
def partBool? : Value → Option Bool
  | .bool b => some b
  | .int n => if n = 0 then some false else if n = 1 then some true else none
  | .double x => doubleBool? x
  | .decimal d => d.toBinary64?.bind doubleBool?
  | v => v.asText?.bind textBool?

/-- A part that is one of the values of truth, or stands for one. -/
def partBool (v : Value) : Except Error Bool :=
  match partBool? v with
  | some b => .ok b
  | none => .error .malformedRequest

/-- A text part. -/
def partText (v : Value) : Except Error String :=
  match v with
  | .member m => .ok m.value
  | v => match v.asText? with
    | some s => .ok s
    | none => .error .malformedRequest

/-- A part that is a mapping with text keys. -/
def partMap (v : Value) : Except Error (List (Value × Value)) :=
  match v.entries? with
  | some entries => do
    return Value.ofPairs (← entries.mapM fun e => return (.text (← partText e.1), e.2))
  | none => .error .malformedRequest

/-- A positive integer. -/
def positive (n : Int) : Except Error Int := if n < 1 then .error .malformedRequest else .ok n

/-- The request after one of its parts has been set. Parts of other names are passed over. -/
def withPart (r : SearchRequest) (name : String) (v : Value) : Except Error SearchRequest :=
  match name with
  | "filters" => do return { r with filters := ← partMap v }
  | "sort" => do return { r with sort := ← partText v }
  | "per_page" => do
    match ← partIntOrNull v with
    | some n => return { r with perPage? := some (← positive n) }
    | none => return { r with perPage? := none }
  | "page" => do return { r with page := ← positive (← partInt v) }
  | "skip_pagination" => do return { r with skipPagination := ← partBool v }
  | "limit" => do return { r with limit? := ← partCap v }
  | _ => .ok r

/-- The request with these named parts. -/
def ofParts (parts : List (String × Value)) : Except Error SearchRequest :=
  parts.foldlM (fun r p => r.withPart p.1 p.2) empty

end SearchRequest

end Winnow
