import Winnow.Filter
import Winnow.Query.Sort

/-!
# Winnow.Query.Step — steps of a declared scope

Whoever declares a resource says which rows belong to it at all, in steps: single calls, groups and
scopes of steps, whole filter maps, sort texts and caps. Steps stand for calls as soon as the
dialect of the query is known.
-/

namespace Winnow

/-- One step on a query: a call, a group of steps one of which must hold, steps on the rows related
through a relation, a filter map, a sort text or a cap. -/
inductive Step where
  | call (c : Call)
  | any (steps : List Step)
  | has (relation : String) (steps : List Step)
  | filters (options : Filter.Options) (map : Value)
  | sort (text : Value)
  | cap (count : Value)

namespace Step

mutual

/-- The calls that a step stands for on a query of a dialect. -/
def calls (dialect : String) : Step → List Call
  | call c => [c]
  | any steps => [.any (callsOfAll dialect steps)]
  | has relation steps => [.has relation (callsOfAll dialect steps)]
  | filters options map => options.calls dialect map
  | sort text => text.sortCalls
  | cap count => count.capCalls

/-- The calls that several steps stand for. -/
def callsOfAll (dialect : String) : List Step → List Call
  | [] => []
  | s :: steps => calls dialect s ++ callsOfAll dialect steps

end

end Step

end Winnow
