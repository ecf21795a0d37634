/-!
# Combinations

* `combinations` are all ways to take one element of each list, in lexicographic order;
* `firstCombinations` makes no more of them than asked for.
-/

namespace StepExpr.Suggestion

variable {α : Type}

def combinations : List (List α) → List (List α)
  | [] => [[]]
  | xs :: rest => xs.flatMap fun x => (combinations rest).map (x :: ·)

/-- The first `limit` combinations. -/
def firstCombinations : List (List α) → Nat → List (List α)
  | _, 0 => []
  | [], _ + 1 => [[]]
  | xs :: rest, limit + 1 =>
    xs.foldl (fun found x =>
      found ++ (firstCombinations rest (limit + 1 - found.length)).map (x :: ·)) []

end StepExpr.Suggestion
