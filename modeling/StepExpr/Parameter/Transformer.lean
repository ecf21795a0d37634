import StepExpr.Value.Convert

/-!
# Transformers

A transformer turns the captures of a parameter into a value. One of an application's own may
remember its earlier calls, so a log of the calls goes through every run of a transformer.
-/

namespace StepExpr

/-- Every call of a transformer of an application's own: the transformer's key and the captures,
the latest call first. -/
structure CallLog where
  calls : List (Nat × Captured)

namespace CallLog

def empty : CallLog := ⟨[]⟩

def record (log : CallLog) (key : Nat) (captures : Captured) : CallLog :=
  ⟨(key, captures) :: log.calls⟩

/-- The captures that a transformer was called with, the latest first. -/
def history (log : CallLog) (key : Nat) : List Captured :=
  (log.calls.filter fun call => call.1 = key).map Prod.snd

@[simp] theorem history_record_self (log : CallLog) (key : Nat) (captures : Captured) :
    (log.record key captures).history key = captures :: log.history key := by
  simp [record, history]

theorem history_record_of_ne (log : CallLog) {key other : Nat} (h : other ≠ key)
    (captures : Captured) : (log.record key captures).history other = log.history other := by
  simp [record, history, Ne.symm h]

end CallLog

inductive Transformer where
  /-- Converts the first capture. -/
  | kind (k : Kind)
  /-- Takes the escapes out of a quoted text: the first capture, or the second if the first took no
  part. -/
  | quoted
  /-- A transformer of an application's own, under a key that no other has. It is given its earlier
  calls, the latest first, and the captures. -/
  | own (key : Nat) (run : List Captured → Captured → Except TransformError Value)

/-- Writes each backslash with a quote behind it as the quote alone. -/
def unescapeQuotes (quote : Char) : List Char → List Char
  | '\\' :: c :: rest =>
    if c = quote then quote :: unescapeQuotes quote rest
    else '\\' :: unescapeQuotes quote (c :: rest)
  | c :: rest => c :: unescapeQuotes quote rest
  | [] => []

def unquote (captures : Captured) : Value :=
  let first := (captures[0]?).join
  let second := (captures[1]?).join
  match first.or second with
  | none => .absent
  | some text =>
    .string (String.ofList (unescapeQuotes '\'' (unescapeQuotes '"' text.toList)))

/-- Runs a transformer, and logs the call if it is one of an application's own. -/
def Transformer.apply (t : Transformer) (log : CallLog) (captures : Captured) :
    Except TransformError Value × CallLog :=
  match t with
  | kind k => (k.convert (captures.head?).join, log)
  | quoted => (.ok (unquote captures), log)
  | own key run => (run (log.history key) captures, log.record key captures)

end StepExpr
