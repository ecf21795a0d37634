import StepExpr.Unicode.Table
import StepExpr.Unicode.AgeTable

/-!
# Ages

The characters that a version of the standard knows.
-/

namespace StepExpr.Unicode

/-- The versions of the standard, the oldest first. -/
def versions : List String := words versionsText

def ageTable : Table String := Table.ofText some ageText

/-- A version is named by its number, or by `v` and the number without its point. -/
def versionNamed? (name : String) : Option String :=
  versions.find? fun version =>
    name = version || name.toList = 'v' :: version.toList.filter (· != '.')

/-- The characters assigned in the version of a loose name and in those before it. -/
def ageSet? (name : String) : Option CharSet :=
  (versionNamed? name).map fun version =>
    let older := versions.takeWhile (· != version)
    ageTable.select fun age => age == version || older.contains age

end StepExpr.Unicode
