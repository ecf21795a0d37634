import StepExpr.Proofs.Expression.Captures
import StepExpr.Proofs.Expression.Hints
import StepExpr.Proofs.Suggestion.Limit
import StepExpr.Session

/-!
# Values over calls of a session

The value of an argument is made when it is first asked for, and no call makes it again.

* `Effect` is what a call does to the arguments and to the log, and `call_effect` says that a call
  does no more;
* `argument?_called`: an argument stays as it is over a run of calls, if none of them stores a match
  under its name or is the first to ask for it;
* `value_made_once` puts the parts together.
-/

namespace StepExpr

/-! ## Arguments -/

namespace Argument

variable {a : Argument}

theorem value_fresh (fresh : a.cached = none) (log : CallLog) :
    a.value log = ((a.compute log).1, { a with cached := some (a.compute log).1 },
      (a.compute log).2) := by
  simp only [value, fresh]

theorem value_kept {result : Except TransformError Value} (kept : a.cached = some result)
    (log : CallLog) : a.value log = (result, a, log) := by
  simp only [value, kept]

theorem compute_of_hint {hint : String} (hinted : a.hint = some hint) (log : CallLog) :
    a.compute log = (convertTo hint a.group.value, log) := by
  simp only [compute, hinted]

/-- An argument of a match has not been asked for. It has the hint at its place if its parameter is
anonymous. -/
theorem fresh_of_pair {groups : List Group} {types : List ParameterType} {hints : List String}
    {i : Nat} (h : (pair groups types hints)[i]? = some a) :
    a.cached = none ∧ a.hint = if a.type.anonymous then hints[i]? else none := by
  obtain ⟨group, type, -, -, rfl⟩ := getElem?_pair h
  exact ⟨rfl, rfl⟩

end Argument

theorem Expression.exists_pair {e : Expression} {limit : Nat} {text : List Char}
    {hints : List String} {args : List Argument}
    (h : e.arguments limit text hints = .ok (some args)) :
    ∃ groups types, args = Argument.pair groups types hints := by
  have paired {m : Matcher} {types : List ParameterType}
      (h : m.arguments types text hints = .ok (some args)) :
      ∃ groups types, args = Argument.pair groups types hints := by
    rcases m.arguments_outcome types text with ⟨error, failed⟩ | unmatched | ⟨groups, -, found⟩
    · rw [failed] at h
      cases h
    · rw [unmatched] at h
      cases h
    · rw [found] at h
      cases h
      exact ⟨groups, types, rfl⟩
  cases e with
  | template e => exact paired h
  | regular e =>
    cases found : e.typesOf limit text e.matcher.groups.children with
    | error error =>
      simp only [arguments, found] at h
      cases h
    | ok types =>
      simp only [arguments, found] at h
      exact paired h

namespace Session

/-! ## Calls -/

/-- A call on a session. What it answers is left out. -/
inductive Call where
  /-- Stores the registry of one name under another. -/
  | copy (registry stored : String)
  | define (registry : String) (t : ParameterType)
  | express (registry : String) (form : Expression.Form) (source : List Char) (stored : String)
  | matchText (expression : String) (text : List Char) (hints : List String)
      (stored : Option String)
  | value (stored : String) (i : Nat)
  | limit (change : SuggestionLimit.Change)

/-- The session after a call. A call that fails leaves it as it is. -/
def call (s : Session) : Call → Session
  | .copy registry stored => s.putRegistry stored (s.registry registry)
  | .define registry t =>
    match s.define registry t with
    | .ok after => after
    | .error _ => s
  | .express registry form source stored =>
    match s.express registry form source stored with
    | .ok (_, after) => after
    | .error _ => s
  | .matchText expression text hints stored =>
    match s.matchText expression text hints stored with
    | .ok (_, after) => after
    | .error _ => s
  | .value stored i =>
    match s.value stored i with
    | .ok (_, after) => after
    | .error _ => s
  | .limit change => { s with limit := s.limit.change change }

/-- The session after some calls. -/
def called (s : Session) (calls : List Call) : Session := calls.foldl call s

/-- The call finds a match and stores it under the name. What the name led to before is then out of
reach. -/
def Replaces (s : Session) (name : String) : Call → Prop
  | .matchText expression text hints stored => stored = some name ∧
    ∃ args t, s.matchText expression text hints stored = .ok (some args, t)
  | _ => False

/-- What is stored under the name stays in reach over some calls. -/
def Keeps (name : String) : Session → List Call → Prop
  | _, [] => True
  | s, c :: calls => ¬ s.Replaces name c ∧ Keeps name (s.call c) calls

def Call.Asks (name : String) (i : Nat) : Call → Prop
  | value stored j => stored = name ∧ j = i
  | _ => False

/-- One of the arguments that are stored under a name. -/
def argument? (s : Session) (name : String) (i : Nat) : Option Argument :=
  ((s.arguments.lookup name).getD [])[i]?

variable {s t : Session} {name stored expression : String} {text : List Char} {hints : List String}
  {args : List Argument} {a : Argument} {i j : Nat} {c : Call} {calls : List Call}

theorem argument?_of_cons (h : t.arguments = (stored, args) :: s.arguments) (name : String)
    (i : Nat) : t.argument? name i = if name = stored then args[i]? else s.argument? name i := by
  rw [argument?, h, List.lookup_cons]
  by_cases same : name = stored
  · simp [same]
  · simp [same, beq_eq_false_iff_ne.mpr same, argument?]

/-! ## What calls do -/

/-- The session with the arguments of a match, if there is one and it is given a name. -/
def store (s : Session) : Option (List Argument) → Option String → Session
  | some args, some name => { s with arguments := (name, args) :: s.arguments }
  | _, _ => s

theorem matchText_eq_ok {found : Option (List Argument)} {stored : Option String}
    (h : s.matchText expression text hints stored = .ok (found, t)) :
    (∃ e, s.expressions.lookup expression = some e ∧
      e.arguments s.limit.value text hints = .ok found) ∧ t = s.store found stored := by
  unfold matchText at h
  split at h
  · cases h
  · rename_i e known
    refine ⟨⟨e, known, ?_⟩, ?_⟩
    all_goals
      cases made : e.arguments s.limit.value text hints with
      | error => rw [made] at h; cases h
      | ok answer =>
        rw [made] at h
        cases answer <;> cases stored <;> cases h <;> rfl

theorem value_of_argument? (h : s.argument? name i = some a) : ∃ t,
    s.value name i = .ok ((a.value s.log).1, t) ∧ t.log = (a.value s.log).2.2 ∧
      ∀ other j, t.argument? other j =
        if other = name ∧ j = i then some (a.value s.log).2.1 else s.argument? other j := by
  have found : ((s.arguments.lookup name).getD [])[i]? = some a := h
  have asked : s.value name i = .ok ((a.value s.log).1, { s with
      arguments := (name, ((s.arguments.lookup name).getD []).set i (a.value s.log).2.1) ::
        s.arguments
      log := (a.value s.log).2.2 }) := by
    simp only [value, found]
  refine ⟨_, asked, rfl, ?_⟩
  intro other j
  rw [argument?_of_cons rfl]
  by_cases same : other = name
  · subst same
    by_cases here : j = i
    · subst here
      obtain ⟨bound, -⟩ := List.getElem?_eq_some_iff.mp found
      simp [bound]
    · simp [here, Ne.symm here, argument?]
  · simp [same]

/-- What a call does to the arguments and the log. -/
inductive Effect (s : Session) : Call → Session → Prop where
  | none {c : Call} {t : Session} : t.arguments = s.arguments → t.log = s.log → Effect s c t
  | stored {expression name : String} {text : List Char} {hints : List String}
      {args : List Argument} {t : Session} :
      s.matchText expression text hints (some name) = .ok (some args, t) →
      t.arguments = (name, args) :: s.arguments → t.log = s.log →
      Effect s (.matchText expression text hints (some name)) t
  | asked {name : String} {i : Nat} {a : Argument} {t : Session} : s.argument? name i = some a →
      t.log = (a.value s.log).2.2 → (∀ other j, t.argument? other j =
        if other = name ∧ j = i then some (a.value s.log).2.1 else s.argument? other j) →
      Effect s (.value name i) t

theorem call_effect (s : Session) (c : Call) : Effect s c (s.call c) := by
  cases c with
  | copy => exact .none rfl rfl
  | define registry t =>
    cases defined : s.define registry t with
    | error => simp only [call, defined]; exact .none rfl rfl
    | ok after =>
      obtain ⟨r, -, rfl⟩ := Template.map_ok defined
      simp only [call, defined]
      exact .none rfl rfl
  | express registry form source stored =>
    cases made : s.express registry form source stored with
    | error => simp only [call, made]; exact .none rfl rfl
    | ok answer =>
      obtain ⟨e, -, rfl⟩ := Template.map_ok made
      simp only [call, made]
      exact .none rfl rfl
  | matchText expression text hints stored =>
    cases matched : s.matchText expression text hints stored with
    | error => simp only [call, matched]; exact .none rfl rfl
    | ok answer =>
      obtain ⟨found, after⟩ := answer
      simp only [call, matched]
      obtain ⟨-, rfl⟩ := matchText_eq_ok matched
      cases found with
      | none => exact .none rfl rfl
      | some args =>
        cases stored with
        | none => exact .none rfl rfl
        | some name => exact .stored matched rfl rfl
  | value name i =>
    cases here : s.argument? name i with
    | none =>
      have failed : s.value name i = .error .noArgument := by
        unfold argument? at here
        simp only [value, here]
      simp only [call, failed]
      exact .none rfl rfl
    | some a =>
      obtain ⟨t, asked, log, others⟩ := value_of_argument? here
      simp only [call, asked]
      exact .asked here log others
  | limit => exact .none rfl rfl

/-- Only a call that asks for an argument for the first time runs a transformer. -/
theorem log_call (s : Session) (c : Call) : (s.call c).log = s.log ∨
    ∃ name i a, c = .value name i ∧ s.argument? name i = some a ∧ a.cached = none ∧
      (s.call c).log = (a.compute s.log).2 := by
  cases call_effect s c with
  | none _ log => exact .inl log
  | stored _ _ log => exact .inl log
  | @asked name i a _ here log =>
    cases cached : a.cached with
    | none =>
      rw [Argument.value_fresh cached] at log
      exact .inr ⟨name, i, a, rfl, here, cached, log⟩
    | some result =>
      rw [Argument.value_kept cached] at log
      exact .inl log

/-- An argument stays as it is, unless another match is stored under its name or it is asked for the
first time. -/
theorem argument?_call (here : s.argument? name i = some a) (kept : ¬ s.Replaces name c)
    (still : c.Asks name i → a.cached ≠ none) : (s.call c).argument? name i = some a := by
  cases call_effect s c with
  | none arguments =>
    rw [argument?, arguments]
    exact here
  | @stored _ name' _ _ args t matched arguments =>
    have other : name ≠ name' := by
      rintro rfl
      exact kept ⟨rfl, args, _, matched⟩
    rw [argument?_of_cons arguments, if_neg other, here]
  | asked found _ arguments =>
    rw [arguments]
    split
    · -- it was asked for before, so it is put back as it is
      rename_i same
      obtain ⟨rfl, rfl⟩ := same
      obtain rfl := Option.some.inj (here.symm.trans found)
      obtain ⟨result, cached⟩ := Option.ne_none_iff_exists'.mp (still ⟨rfl, rfl⟩)
      rw [Argument.value_kept cached]
    · exact here

/-- So it stays over a run of calls. -/
theorem argument?_called (here : s.argument? name i = some a) (kept : Keeps name s calls)
    (still : ∀ c ∈ calls, c.Asks name i → a.cached ≠ none) :
    (s.called calls).argument? name i = some a := by
  induction calls generalizing s with
  | nil => exact here
  | cons c calls ih =>
    obtain ⟨first, others⟩ := List.forall_mem_cons.mp still
    exact ih (argument?_call here kept.1 first) kept.2 others

theorem value_first (here : s.argument? name i = some a) (fresh : a.cached = none) : ∃ t,
    s.value name i = .ok ((a.compute s.log).1, t) ∧ t.log = (a.compute s.log).2 ∧
      t.argument? name i = some { a with cached := some (a.compute s.log).1 } := by
  obtain ⟨t, asked, log, arguments⟩ := value_of_argument? here
  rw [Argument.value_fresh fresh] at asked log arguments
  exact ⟨t, asked, log, (arguments name i).trans (if_pos ⟨rfl, rfl⟩)⟩

theorem value_again {result : Except TransformError Value} (here : s.argument? name i = some a)
    (cached : a.cached = some result) : ∃ t, s.value name i = .ok (result, t) ∧ t.log = s.log := by
  obtain ⟨t, asked, log, -⟩ := value_of_argument? here
  rw [Argument.value_kept cached] at asked log
  exact ⟨t, asked, log⟩

/-- A match runs no transformer. The value of an argument is made by the first call that asks for
it, whatever was called since the match, and later calls give it again and run no transformer. With
a hint it is made without the transformer. -/
theorem value_made_once
    (matched : s.matchText expression text hints (some name) = .ok (some args, t)) :
    t.log = s.log ∧
    (∀ (u : Session) c, (u.call c).log = u.log ∨
      ∃ stored i a, c = .value stored i ∧ u.argument? stored i = some a ∧ a.cached = none ∧
        (u.call c).log = (a.compute u.log).2) ∧
    ∀ i a, args[i]? = some a → a.hint = (if a.type.anonymous then hints[i]? else none) ∧
      ∀ before, Keeps name t before → (∀ c ∈ before, ¬ c.Asks name i) →
        ∃ result u, (t.called before).value name i = .ok (result, u) ∧
          (a.hint = none → (result, u.log) = a.type.transformer.apply (t.called before).log
            (if a.type.anonymous then [a.group.value] else a.group.values)) ∧
          (∀ hint, a.hint = some hint →
            result = convertTo hint a.group.value ∧ u.log = (t.called before).log) ∧
          ∀ later, Keeps name u later →
            ∃ v, (u.called later).value name i = .ok (result, v) ∧
              v.log = (u.called later).log := by
  obtain ⟨⟨e, -, made⟩, rfl⟩ := matchText_eq_ok matched
  obtain ⟨groups, types, rfl⟩ := Expression.exists_pair made
  refine ⟨rfl, log_call, ?_⟩
  intro i a here
  obtain ⟨fresh, hint⟩ := Argument.fresh_of_pair here
  refine ⟨hint, ?_⟩
  intro before kept unasked
  generalize after : s.store (some (Argument.pair groups types hints)) (some name) = t at kept
  have stored : t.argument? name i = some a := by
    rw [← after, argument?_of_cons rfl, if_pos rfl, here]
  have waiting := argument?_called stored kept fun c hc asks => (unasked c hc asks).elim
  obtain ⟨u, asked, log, now⟩ := value_first waiting fresh
  refine ⟨_, u, asked, ?_, ?_, ?_⟩
  · intro unhinted
    rw [log]
    exact Argument.compute_of_no_hint unhinted _
  · intro hint hinted
    rw [log, Argument.compute_of_hint hinted]
    exact ⟨rfl, rfl⟩
  · intro later kept
    have still := argument?_called now kept fun _ _ _ => Option.some_ne_none _
    exact value_again still rfl

/-- A type whose values are numbered in the order in which they are made. -/
def counter : ParameterType :=
  ⟨"n", ["a"], none, .own 0 fun earlier _ => .ok (.integer .u64 (earlier.length + 1)), true, false,
    false⟩

theorem define_counter :
    Registry.initial.define counter = .ok (Registry.initial.insert counter) := by
  have defined : (Registry.initial.define counter).isOk = true := by decide +kernel
  cases h : Registry.initial.define counter with
  | error => rw [h] at defined; cases defined
  | ok r => rw [(Registry.register_of_define h).2]

/-- A session with a template for the numbered type. -/
def counting : Session :=
  initial.called [.define "main" counter, .express "main" .template "{n}".toList "e"]

theorem exists_match_counting : counting.log = .empty ∧ ∃ a t, a.type = counter ∧
    counting.matchText "e" "a".toList [] (some "m") = .ok (some [a], t) := by
  obtain ⟨tree, parsed, bound⟩ : ∃ tree, Template.parse "{n}".toList = .ok tree ∧
      tree.bind (Registry.initial.insert counter).byName? = .ok ⟨"^(a)$".toList, [counter]⟩ :=
    ⟨_, rfl, rfl⟩
  have known : (Pattern.parse? (narrowDigits "^(a)$".toList)).bind Pattern.regex? =
      some (.cat (.look .textStart) (.cat (.group 1 (.literal ['a'])) (.look .textEnd))) := by
    decide +kernel
  obtain ⟨m, compiled, program, groups⟩ := Matcher.compile?_of_regex? known (by decide +kernel)
  have created := TemplateExpression.create_of_compile? parsed bound compiled
  have found : (m.match? "a".toList).isSome = true := by
    rw [Matcher.match?, Option.isSome_map, program, Regex.program_search_isSome_iff]
    refine ⟨0, 1, by simp, ?_⟩
    simp only [Regex.matches_cat, Regex.matches_group, Regex.matches_literal]
    refine ⟨0, ?_, 1, ⟨rfl, rfl⟩, ?_⟩
    · simp [Look.holds, Look.before?]
    · simp [Look.holds]
  obtain ⟨root, matched⟩ := Option.isSome_iff_exists.mp found
  obtain ⟨g, only⟩ : ∃ g, root.children = [g] := by
    rw [← List.length_eq_one_iff, Matcher.length_children_of_match? matched, groups]
    rfl
  have defined : initial.define "main" counter =
      .ok (initial.putRegistry "main" (Registry.initial.insert counter)) := by
    rw [define, show initial.registry "main" = .initial from rfl, define_counter]
    rfl
  have same : counting = ⟨[("main", Registry.initial.insert counter)],
      [("e", .template ⟨"{n}".toList, tree, m, [counter]⟩)], [], .initial, .empty⟩ := by
    simp only [counting, called, List.foldl_cons, List.foldl_nil, call, defined, express,
      Expression.create, registry, putRegistry, List.lookup_cons_self, Option.getD_some, created]
    rfl
  refine ⟨by rw [same], ⟨g, counter, none, none⟩, counting.store (some [⟨g, counter, none, none⟩])
    (some "m"), rfl, ?_⟩
  simp only [same, matchText, List.lookup_cons_self, Expression.arguments, Matcher.arguments,
    matched, only]
  rfl

/-- Asked twice, the counter answers one both times. -/
theorem value_made_once_counter : ∃ t a,
    counting.matchText "e" "a".toList [] (some "m") = .ok (some [a], t) ∧
    ∃ u, t.value "m" 0 = .ok (.ok (.integer .u64 1), u) ∧ Keeps "m" u [.value "m" 0] ∧
      ∃ v, (u.called [.value "m" 0]).value "m" 0 = .ok (.ok (.integer .u64 1), v) ∧
        v.log = (u.called [.value "m" 0]).log := by
  obtain ⟨empty, a, t, type, matched⟩ := exists_match_counting
  obtain ⟨log, -, each⟩ := value_made_once matched
  obtain ⟨hint, first⟩ := each 0 a rfl
  obtain ⟨result, u, asked, runs, -, again⟩ := first [] trivial (by simp)
  have kept : Keeps "m" u [.value "m" 0] := ⟨id, trivial⟩
  have made := runs (by rw [hint, type]; rfl)
  have one : result = .ok (.integer .u64 1) := by
    rw [type, show t.called [] = t from rfl, log, empty] at made
    exact congrArg Prod.fst made
  rw [one] at asked again
  exact ⟨t, a, matched, u, asked, kept, again _ kept⟩

end Session

end StepExpr
