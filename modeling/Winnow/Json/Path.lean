import Winnow.Json
import Winnow.Number.Numeral

/-!
# Winnow.Json.Path — a place in a document

A path leads from the root of a document to one place in it: `.label` to a member of an object,
`[n]` to an item of an array, `[#-n]` to an item counted from the end. A label between quotation
marks may hold points and brackets. The text of a path ends before its first NUL.

A path is followed step by step, and only as far as the document goes. So it is found out late that
a path is not well formed, and not at all if an earlier step leads nowhere.

Labels are compared in the form they have in the document text, so a path reaches no label that
needs escapes there.
-/

namespace Winnow.Json

/-- One step of a path. The steps that are not well formed lead nowhere from where a step of their
beginning could not be made, and break the path everywhere else. -/
inductive Path.Step where
  /-- To a member of an object, by its escaped label. -/
  | member (label : List Char)
  /-- To an item of an array. -/
  | index (place : Nat)
  /-- To an item of an array, counted back from its end. -/
  | fromEnd (back : Nat)
  /-- A point without a label, or with a label whose quotation marks are not closed. -/
  | badLabel
  /-- A place counted back from the end of an array, whose bracket is not closed. -/
  | badEnd (back : Nat)
  /-- Anything else. -/
  | bad
  deriving DecidableEq

namespace Path

/-- The number at the begin of a text and the rest; numbers have 32 bits. -/
def takeNumber (cs : List Char) : Nat × List Char :=
  (Number.digitsValue (cs.takeWhile Char.isDigit) % Number.pow2 32, cs.dropWhile Char.isDigit)

/-- Is the step not well formed? -/
def Step.isBad : Step → Bool
  | badLabel => true
  | badEnd _ => true
  | bad => true
  | _ => false

/-- The step after `[#`, and what follows its closing bracket. -/
def endStep (cs : List Char) : Step × List Char :=
  let (back, rest) := match cs with
    | '-' :: c :: more => if c.isDigit then takeNumber (c :: more) else (0, cs)
    | _ => (0, cs)
  match rest with
  | ']' :: rest => (.fromEnd back, rest)
  | rest => (.badEnd back, rest)

/-- The step after an opening bracket, and what follows its closing one. -/
def bracketStep (cs : List Char) : Step × List Char :=
  match cs with
  | '#' :: more => endStep more
  | c :: _ =>
    if c.isDigit then
      match takeNumber cs with
      | (place, ']' :: rest) => (.index place, rest)
      | (_, rest) => (.bad, rest)
    else (.bad, cs)
  | [] => (.bad, [])

/-- The step after a point, and what follows its label. -/
def labelStep (cs : List Char) : Step × List Char :=
  match cs with
  | '\x22' :: more =>
    match more.dropWhile (· != '\x22') with
    | _ :: rest => (.member (more.takeWhile (· != '\x22')), rest)
    | [] => (.badLabel, [])
  | cs =>
    let label := cs.takeWhile fun c => c != '.' && c != '['
    (if label.isEmpty then .badLabel else .member label, cs.drop label.length)

/-- The first step of a path and the rest of it. -/
def firstStep : List Char → Step × List Char
  | '.' :: cs => labelStep cs
  | '[' :: cs => bracketStep cs
  | cs => (.bad, cs)

/-- The steps that a text spells, up to the first that is not well formed, read with `fuel` for
their number. -/
def readSteps : Nat → List Char → List Step
  | _, [] => []
  | 0, _ => []
  | fuel + 1, cs =>
    let (step, rest) := firstStep cs
    if step.isBad then [step] else step :: readSteps fuel rest

/-- The steps of the path whose text after the root is `cs`. Each of them takes a character. -/
def read (cs : List Char) : List Step := readSteps cs.length cs

end Path

/-- Where a path leads in a document: to a place, to none, or to a step that is not well formed. -/
inductive Destination where
  | place (doc : Json)
  | nowhere
  | malformed

/-- The destination of a step that leads to a place or nowhere. -/
def Destination.ofOption : Option Json → Destination
  | some doc => place doc
  | none => nowhere

/-- One step down. -/
def step (doc : Json) : Path.Step → Destination
  | .member label => match doc with
    | object members =>
      .ofOption ((members.find? fun m => escaped m.1.toList == label).map Prod.snd)
    | _ => .nowhere
  | .index place => match doc with
    | array items => .ofOption items[place]?
    | _ => .nowhere
  | .fromEnd back => match doc with
    | array items =>
      if back ≤ items.length then .ofOption items[items.length - back]? else .nowhere
    | _ => .nowhere
  | .badLabel => match doc with
    | object _ => .malformed
    | _ => .nowhere
  | .badEnd back => match doc with
    | array items => if back ≤ items.length then .malformed else .nowhere
    | _ => .nowhere
  | .bad => .malformed

/-- Where the steps lead. -/
def follow (doc : Json) : List Path.Step → Destination
  | [] => .place doc
  | s :: steps => match step doc s with
    | .place doc => follow doc steps
    | destination => destination

/-- Where a key of the root leads, where the key may go on as a path. -/
def lookup (doc : Json) (key : String) : Destination :=
  follow doc (Path.read ('.' :: key.toList.takeWhile (· != '\x00')))

end Winnow.Json
