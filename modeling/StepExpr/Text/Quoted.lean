import StepExpr.Text.Character

/-!
# Quoted text

Text between double quotes, with escapes for what would not show.
-/

namespace StepExpr

/-- Line breaks, tabs, quotes and backslashes have short escapes. Other characters that do not show
are written by their codes in hexadecimal. -/
def escapeChar (c : Char) : List Char :=
  match c with
  | '\x00' => ['\\', '0']
  | '\t' => ['\\', 't']
  | '\r' => ['\\', 'r']
  | '\n' => ['\\', 'n']
  | '\\' => ['\\', '\\']
  | '"' => ['\\', '"']
  | _ =>
    if Text.isShown c then [c]
    else ['\\', 'u', '\x7b'] ++ Nat.toDigits 16 c.toNat ++ ['\x7d']

def quote (text : String) : String :=
  String.ofList ('"' :: text.toList.flatMap escapeChar ++ ['"'])

end StepExpr
