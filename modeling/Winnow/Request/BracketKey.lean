import Winnow.Value

/-!
# Winnow.Request.BracketKey — nested parameters

The parameters of a request are pairs of texts. A key with brackets, such as `filter[price][gte]`,
names a place in a tree; empty brackets at its end collect the values of several pairs in a list.
All other empty brackets are passed over. A later pair overwrites what earlier ones have left at its
place. A key whose brackets do not match is a plain name.
-/

namespace Winnow

/-- What stands at a place of the tree of parameters. -/
inductive Param where
  | text (s : String)
  | list (items : List String)
  | node (children : List (String × Param))
  deriving Inhabited

/-- What a key does with its value at the place it names. -/
inductive Slot where
  /-- The value stands there alone. -/
  | assign
  /-- The value is the last item of a list there. -/
  | append
  /-- The value is dropped, and a node is there. -/
  | visit
  deriving DecidableEq

/-- A place in the tree of parameters, by the names on the way from the root, and what is done
there. -/
structure BracketKey where
  path : List String
  slot : Slot
  deriving DecidableEq

namespace BracketKey

/-- Is the character a bracket? -/
def isBracket (c : Char) : Bool := c == '[' || c == ']'

/-- The segments between brackets, one pair of brackets right after the other; a line feed may end
the text. `fuel` bounds their number. -/
def readBrackets? : Nat → List Char → Option (List (List Char))
  | _, [] => some []
  | _, ['\n'] => some []
  | 0, _ => none
  | fuel + 1, '[' :: cs =>
    match cs.dropWhile (!isBracket ·) with
    | ']' :: rest => (readBrackets? fuel rest).map (cs.takeWhile (!isBracket ·) :: ·)
    | _ => none
  | _ + 1, _ => none

/-- The name and the bracketed segments of a key; a key that is not well formed is its own name. -/
def segments (key : String) : List String :=
  let cs := key.toList
  let name := cs.takeWhile (!isBracket ·)
  match name, readBrackets? cs.length (cs.dropWhile (!isBracket ·)) with
  | _ :: _, some brackets => (name :: brackets).map String.ofList
  | _, _ => [key]

/-- The place that segments name. -/
def ofSegments : List String → BracketKey
  | [] => ⟨[], .visit⟩
  | name :: brackets =>
    let path := name :: brackets.filter (!·.isEmpty)
    match brackets.reverse with
    | [] => ⟨path, .assign⟩
    | last :: before =>
      if !last.isEmpty then ⟨path, .assign⟩
      else match before with
        | [] => ⟨path, .append⟩
        | previous :: _ => ⟨path, if previous.isEmpty then .visit else .append⟩

/-- The place that a key names. -/
def read (key : String) : BracketKey := ofSegments (segments key)

end BracketKey

namespace Param

/-- The children of a place; none unless it is a node. -/
def children : Option Param → List (String × Param)
  | some (node cs) => cs
  | _ => []

/-- The items of a place; none unless it is a list. -/
def items : Option Param → List String
  | some (list xs) => xs
  | _ => []

/-- What stands under a name. -/
def get? (name : String) (cs : List (String × Param)) : Option Param :=
  (cs.find? (·.1 == name)).map Prod.snd

/-- Put something under a name: in the place of the name if it is there, otherwise at the end. -/
def set (name : String) (p : Param) : List (String × Param) → List (String × Param)
  | [] => [(name, p)]
  | c :: cs => if c.1 == name then (name, p) :: cs else c :: set name p cs

/-- What stands at a place after a value has come there. -/
def fill (slot : Slot) (value : String) (old : Option Param) : Param :=
  match slot with
  | .assign => text value
  | .append => list (items old ++ [value])
  | .visit => node (children old)

/-- The tree after a value has come to the end of a way. -/
def store (slot : Slot) (value : String) :
    List String → List (String × Param) → List (String × Param)
  | [], cs => cs
  | [name], cs => set name (fill slot value (get? name cs)) cs
  | name :: path, cs => set name (node (store slot value path (children (get? name cs)))) cs

/-- The tree of parameters after one more pair. -/
def add (cs : List (String × Param)) (pair : String × String) : List (String × Param) :=
  let key := BracketKey.read pair.1
  store key.slot pair.2 key.path cs

/-- The tree of parameters that pairs spell. -/
def ofPairs (pairs : List (String × String)) : List (String × Param) := pairs.foldl add []

mutual

/-- A part of the tree as a value. -/
def toValue : Param → Value
  | text s => .text s
  | list items => .list (items.map .text)
  | node cs => .mapping (entries cs)

/-- The children of a node as entries with text keys. -/
def entries : List (String × Param) → List (Value × Value)
  | [] => []
  | (name, p) :: cs => (.text name, toValue p) :: entries cs

end

end Param

end Winnow
