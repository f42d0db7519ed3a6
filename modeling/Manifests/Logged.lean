import Manifests.Error

/-!
Computations that leave log lines and may fail.  The lines of a failed computation are kept, and
the outcome of a sequence is the sequence of the outcomes.
-/
namespace Manifests

inductive LogLevel where
  | info
  | warn
  deriving Repr, DecidableEq

structure LogLine where
  level : LogLevel
  text : String
  deriving Repr, DecidableEq

def LogLine.show : LogLine → String
  | ⟨.info, text⟩ => "INFO " ++ text
  | ⟨.warn, text⟩ => "WARN " ++ text

structure Logged (α : Type) where
  outcome : Except Error α
  log : List LogLine

namespace Logged

variable {α β : Type}

def bind (x : Logged α) (f : α → Logged β) : Logged β :=
  match x.outcome with
  | .error e => ⟨.error e, x.log⟩
  | .ok a => ⟨(f a).outcome, x.log ++ (f a).log⟩

instance : Monad Logged where
  pure a := ⟨.ok a, []⟩
  bind := bind

instance : MonadExceptOf Error Logged where
  throw e := ⟨.error e, []⟩
  tryCatch x handle :=
    match x.outcome with
    | .ok _ => x
    | .error e => ⟨(handle e).outcome, x.log ++ (handle e).log⟩

/-- A computation that logs nothing. -/
def ofExcept (x : Except Error α) : Logged α := ⟨x, []⟩

instance : MonadLift (Except Error) Logged := ⟨ofExcept⟩

def info (text : String) : Logged Unit := ⟨.ok (), [⟨.info, text⟩]⟩

def warn (text : String) : Logged Unit := ⟨.ok (), [⟨.warn, text⟩]⟩

@[simp] theorem outcome_pure (a : α) : (pure a : Logged α).outcome = .ok a := rfl

@[simp] theorem outcome_bind (x : Logged α) (f : α → Logged β) :
    (x >>= f).outcome = x.outcome >>= fun a => (f a).outcome := by
  change (bind x f).outcome = _
  unfold bind
  cases x.outcome <;> rfl

@[simp] theorem outcome_ofExcept (x : Except Error α) : (ofExcept x).outcome = x := rfl

@[simp] theorem outcome_info (text : String) : (info text).outcome = .ok () := rfl

@[simp] theorem outcome_warn (text : String) : (warn text).outcome = .ok () := rfl

instance : LawfulMonad Logged := LawfulMonad.mk' Logged
  (fun x => by
    obtain ⟨o, l⟩ := x
    cases o <;> simp [Functor.map, Logged.bind])
  (fun a f => by simp [Bind.bind, Logged.bind, Pure.pure])
  (fun x f g => by
    obtain ⟨o, l⟩ := x
    cases o with
    | error e => rfl
    | ok a =>
      cases h : (f a).outcome <;> simp [Bind.bind, Logged.bind, h])

end Logged
end Manifests
