import StepExpr.Suggestion.Word

/-!
# Cutting a sample at its parameters

A sample is scanned from left to right. At each step the word that starts first, and of those the
longest, is cut out, and all types that find it are kept as its choices.
-/

namespace StepExpr.Suggestion

/-- A sample cut at words: the text before each word with the types that found it, and the text
behind the last. -/
structure Cut where
  words : List (List Char × List ParameterType)
  tail : List Char

/-- A word that a type finds. -/
structure Candidate where
  type : ParameterType
  start : Nat
  stop : Nat

/-- Earlier words go before later ones, and longer before shorter. -/
def Candidate.before (a b : Candidate) : Bool :=
  a.start < b.start || (a.start = b.start && b.stop < a.stop)

def candidates (ls : List Lookout) : List Candidate :=
  ls.filterMap fun l => l.word?.map fun word => ⟨l.finder.type, word.start, word.stop⟩

/-- A candidate that none goes before. -/
def best? : List Candidate → Option Candidate
  | [] => none
  | c :: cs => some (cs.foldl (fun best c => if c.before best then c else best) c)

/-- Each type once, by name, at its first place. -/
def distinct : List ParameterType → List ParameterType
  | [] => []
  | t :: ts => t :: (distinct ts).filter (·.name != t.name)

/-- The types that found the same word as `best`, the preferred first. -/
def choices (best : Candidate) (cs : List Candidate) : List ParameterType :=
  let tied := cs.filter fun c => c.start = best.start && c.stop = best.stop
  ParameterType.preferredFirst (distinct (tied.map Candidate.type))

def cutFrom (ls : List Lookout) (text : Array Char) : Nat → Nat → Cut
  | 0, pos => ⟨[], (text.extract pos text.size).toList⟩
  | fuel + 1, pos =>
    let ls := ls.map (Lookout.advance text pos)
    let found := candidates ls
    match best? found with
    | none => ⟨[], (text.extract pos text.size).toList⟩
    | some best =>
      let rest := cutFrom ls text fuel best.stop
      let before := (text.extract pos best.start).toList
      { rest with words := (before, choices best found) :: rest.words }

/-- Cuts a sample with the types that suggestions may use. A word is never empty, so there are no
more words than characters. -/
def cut (types : List ParameterType) (text : List Char) : Cut :=
  let sample := text.toArray
  let fs := (types.filter ParameterType.forSnippets).flatMap finders
  cutFrom (fs.map (Lookout.start sample)) sample (text.length + 1) 0

end StepExpr.Suggestion
