import StepExpr.Unicode.Table
import StepExpr.Unicode.ScriptTable

/-!
# Scripts

The characters of a script, and scripts by name.
-/

namespace StepExpr.Unicode

/-- A script, under its four-letter code. -/
structure Script where
  code : String
  deriving DecidableEq, Repr

/-- Lower case, without spaces, hyphens, underscores and a leading `is`. Names that differ only
there are the same name. -/
def looseName (name : String) : String :=
  let kept := fun (cs : List Char) =>
    (cs.filter fun c => c.toNat < 128 && c != ' ' && c != '_' && c != '-').map Char.toLower
  match name.toList with
  | i :: s :: rest =>
    if i.toLower = 'i' ∧ s.toLower = 's' then
      if kept rest = ['c'] then "isc" else String.ofList (kept rest)
    else String.ofList (kept (i :: s :: rest))
  | short => String.ofList (kept short)

namespace Script

def table : Table Script :=
  Table.ofText (fun code => some ⟨code⟩) scriptText

/-- Every script with its loose names. -/
def names : List (Script × List String) :=
  (scriptNameLines.flatMap words).filterMap fun entry =>
    match partsAt ':' entry with
    | [] => none
    | code :: others => some (⟨code⟩, (code :: others).map looseName)

/-- The script with a loose name. -/
def named? (name : String) : Option Script :=
  (names.find? fun entry => entry.2.contains name).map Prod.fst

def set (script : Script) : CharSet := table.select (· == script)

/-- The characters that scripts share, with these scripts. -/
def extensions : Table (List Script) :=
  Table.ofText (fun codes => some ((partsAt ',' codes).map Script.mk)) scriptExtensionText

/-- The characters that are used with a script: shared ones, and those of the script that are not
shared. -/
def extendedSet (script : Script) : CharSet :=
  (extensions.select (·.contains script)).union
    (script.set.diff (extensions.select fun _ => true))

end Script

end StepExpr.Unicode
