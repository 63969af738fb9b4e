import SqlRegexp.Dialect.Argument
import SqlRegexp.Dialect.Mode
import SqlRegexp.Dialect.SubjectSpan
import SqlRegexp.Engine.Basic
import SqlRegexp.Text.Numeral

/-!
Computations that tell what they do: what has been told so far, and the result or the reason why
there is none. What is told never influences the result: `result` turns each operation into the one
on results alone.
-/

namespace SqlRegexp

open SqlRegexp.Text

/-- Why a call has no result. -/
inductive CallError where
  | argument (e : ArgumentError)
  /-- A letter of the match parameter has no meaning. -/
  | letter (letter : List Char)
  /-- The engine does not compile the pattern. -/
  | pattern (e : EngineError)
  /-- A group number in the pattern is no numeral, or becomes too large. -/
  | numeral (e : NumeralError)
  | span (e : SpanError)
  /-- The walk through the matches has no end. -/
  | endless
deriving DecidableEq, Repr

namespace CallError

def message : CallError → String
  | argument e => e.message
  | letter l => Mode.unknownLetterMessage l
  | pattern e => e.message
  | numeral e => e.message
  | span e => e.message
  | endless => "the walk through the matches has no end"

/-- The word for the kind of a failure, as reports show it. -/
def kindName : CallError → String
  | argument _ => "InvalidArgumentError"
  | letter _ | pattern (.malformed _) => "error"
  | pattern (.other kind _) => kind
  | numeral _ => "ValueError"
  | span .noSuchGroup => "IndexError"
  | span _ | endless => "ValueError"

end CallError

/-- What a computation tells. -/
inductive Event where
  | parameterRead (parameter : Option (List Char)) (policy : NewlinePolicy) (mode : Mode)
  | compiling (pattern : List Char) (mode : Mode)
  /-- The occurrence asked for has been found. -/
  | occurrenceFound (number : Nat) (start : Int) (length : Int)
  /-- An earlier occurrence has been passed. -/
  | occurrencePassed (number : Nat) (stop : Int)
  /-- There are fewer occurrences than asked for. -/
  | occurrencesExhausted (number : Nat) (pattern : List Char) (position : Nat)
  /-- The pattern has fewer groups than asked for. -/
  | groupMissing (group : Nat) (pattern : List Char) (count : Nat)
  /-- The group took no part in the match. -/
  | groupUnmatched (group occurrence : Nat)
  /-- The first group is asked for, and the pattern has none. -/
  | noGroup (pattern : List Char)

namespace Event

/-- A quoted text, or the word for a missing one. -/
def quotedOrNone : Option (List Char) → String
  | some cs => quotedString cs
  | none => "None"

/-- How patterns are shown: the one that is given, and the one that a mode makes of it. -/
structure Showing where
  given : List Char → String := quotedString
  made : List Char → String := quotedString

/-- The message of an event. A pattern whose end anchors have been pinned is shown as any text. -/
def message (s : Showing) : Event → String
  | parameterRead parameter policy mode =>
    "Translated match parameter " ++ quotedOrNone parameter ++ " (policy=" ++ policy.label
      ++ ") to flags '" ++ String.ofList mode.letters ++ "'"
  | compiling pattern mode =>
    "Compiling " ++ (if mode.boundary then quotedString pattern else s.made pattern) ++ " with flags '"
      ++ String.ofList mode.letters ++ "'"
  | occurrenceFound k start length =>
    "Occurrence " ++ toString k ++ " found at window offset " ++ toString start ++ " (length "
      ++ toString length ++ ")"
  | occurrencePassed k stop =>
    "Skipping occurrence " ++ toString k ++ " ending at window offset " ++ toString stop
  | occurrencesExhausted k pattern position =>
    "Only " ++ toString k ++ " occurrence(s) of " ++ s.made pattern ++ " found from position "
      ++ toString position
  | groupMissing g pattern count =>
    "Group " ++ toString g ++ " requested but pattern " ++ s.given pattern ++ " defines only "
      ++ toString count
  | groupUnmatched g k =>
    "Group " ++ toString g ++ " did not participate in occurrence " ++ toString k
  | noGroup pattern =>
    "Group 1 requested but " ++ s.given pattern ++ " has no capturing group"

end Event

/-- A result, or the reason why there is none, and what has been told before it. -/
structure Narrated (α : Type) where
  events : List Event
  result : Except CallError α

namespace Narrated

variable {α β : Type}

/-- A result without a word. -/
def ofResult (r : Except CallError α) : Narrated α := ⟨[], r⟩

def tell (e : Event) : Narrated Unit := ⟨[e], .ok ()⟩

instance : Monad Narrated where
  pure a := ⟨[], .ok a⟩
  bind x f :=
    match x.result with
    | .ok a => ⟨x.events ++ (f a).events, (f a).result⟩
    | .error e => ⟨x.events, .error e⟩

instance : MonadExcept CallError Narrated where
  throw e := ⟨[], .error e⟩
  tryCatch x handle :=
    match x.result with
    | .ok _ => x
    | .error e => ⟨x.events ++ (handle e).events, (handle e).result⟩

@[simp] theorem result_pure (a : α) : (pure a : Narrated α).result = .ok a := rfl

@[simp] theorem result_bind (x : Narrated α) (f : α → Narrated β) :
    (x >>= f).result = x.result >>= fun a => (f a).result := by
  show (match x.result with
    | .ok a => (⟨x.events ++ (f a).events, (f a).result⟩ : Narrated β)
    | .error e => ⟨x.events, .error e⟩).result = _
  cases x.result <;> rfl

theorem result_bind_of_ok {x : Narrated α} {a : α} (h : x.result = .ok a) (f : α → Narrated β) :
    (x >>= f).result = (f a).result := by
  rw [result_bind, h]
  rfl

@[simp] theorem result_ofResult (r : Except CallError α) : (ofResult r).result = r := rfl

@[simp] theorem result_tell (e : Event) : (tell e).result = .ok () := rfl

@[simp] theorem result_throw (e : CallError) : (throw e : Narrated α).result = .error e := rfl

end Narrated

end SqlRegexp
