/-!
# Digits in patterns

Patterns take digits to be the ASCII digits, so the digit classes of a pattern are written out
before it is given its meaning.
-/

namespace StepExpr

/-- What an escape is written out as. The complement has no form inside a class. -/
def narrowEscape (inClass : Bool) (c : Char) : List Char :=
  match c, inClass with
  | 'd', true => ['0', '-', '9']
  | 'd', false => ['[', '0', '-', '9', ']']
  | 'D', false => ['[', '^', '0', '-', '9', ']']
  | _, _ => ['\\', c]

/-- Writes out `\d`, and `\D` outside classes, where a class reaches from an opening bracket to the
next closing one. -/
def narrowDigitsFrom (inClass : Bool) : List Char → List Char
  | [] => []
  | ['\\'] => ['\\']
  | '\\' :: c :: rest => narrowEscape inClass c ++ narrowDigitsFrom inClass rest
  | '[' :: rest => '[' :: narrowDigitsFrom true rest
  | ']' :: rest => ']' :: narrowDigitsFrom false rest
  | c :: rest => c :: narrowDigitsFrom inClass rest

def narrowDigits (pattern : List Char) : List Char := narrowDigitsFrom false pattern

end StepExpr
