namespace MipsWord

inductive Severity where
  | info
  | error
  deriving Repr, DecidableEq

def Severity.label : Severity → String
  | info => "info"
  | error => "error"

structure Diagnostic where
  text : String
  severity : Severity
  deriving Repr, DecidableEq

namespace Diagnostic

def isError (diagnostic : Diagnostic) : Bool :=
  diagnostic.severity = .error

def display (diagnostic : Diagnostic) : String :=
  diagnostic.severity.label ++ ": " ++ diagnostic.text

end Diagnostic

/--
The outcome of reading input. A failure never comes with a value.
-/
inductive Outcome (α : Type) where
  | accepted (value : α) (note : Option String)
  | rejected (reason : String)
  | unrecognised
  deriving Repr, DecidableEq

namespace Outcome

def value? {α : Type} : Outcome α → Option α
  | accepted value _ => some value
  | rejected _ => none
  | unrecognised => none

def message? {α : Type} : Outcome α → Option Diagnostic
  | accepted _ note => note.map ({ text := ·, severity := .info })
  | rejected reason => some { text := reason, severity := .error }
  | unrecognised => none

def isError {α : Type} (outcome : Outcome α) : Bool :=
  outcome.message?.any Diagnostic.isError

def map {α β : Type} (f : α → β) : Outcome α → Outcome β
  | accepted value note => accepted (f value) note
  | rejected reason => rejected reason
  | unrecognised => unrecognised

theorem value?_map {α β : Type} (f : α → β) (outcome : Outcome α) :
    (outcome.map f).value? = outcome.value?.map f := by
  cases outcome <;> rfl

theorem value?_eq_none_of_isError {α : Type} {outcome : Outcome α} (h : outcome.isError = true) :
    outcome.value? = none := by
  cases outcome with
  | accepted value note => cases note <;> simp [isError, message?, Diagnostic.isError] at h
  | rejected reason => rfl
  | unrecognised => rfl

theorem isError_of_value? {α : Type} {outcome : Outcome α} {value : α}
    (h : outcome.value? = some value) : outcome.isError = false := by
  cases hfail : outcome.isError with
  | false => rfl
  | true =>
    rw [value?_eq_none_of_isError hfail] at h
    contradiction

end Outcome
end MipsWord
