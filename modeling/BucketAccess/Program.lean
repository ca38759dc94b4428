import BucketAccess.Log

/-!
# Programs

What an operation does to the world outside, as data: it ends with a value, writes a log event, or
makes a call and goes on with the reply. The same program can be run against a network, against a
model of a backend, or along any list of replies.
-/

namespace BucketAccess

/-- The calls that programs of a kind can make, and what each is answered with. -/
structure Signature where
  Call : Type
  Reply : Call → Type

inductive Program (σ : Signature) (α : Type) where
  | done (a : α)
  | note (e : Log.Event) (rest : Program σ α)
  | call (c : σ.Call) (next : σ.Reply c → Program σ α)

namespace Program

variable {σ τ : Signature} {α β ε S : Type}

def bind : Program σ α → (α → Program σ β) → Program σ β
  | done a, f => f a
  | note e rest, f => note e (rest.bind f)
  | call c next, f => call c fun r => (next r).bind f

instance : Monad (Program σ) where
  pure := done
  bind := bind

/-- Makes one call. -/
def ask (c : σ.Call) : Program σ (σ.Reply c) := call c done

def log (level : Log.Level) (message : String) (fields : List (String × Log.Value)) :
    Program σ Unit :=
  note ⟨level, message, fields⟩ (done ())

/-- The program with each call made by a program of another kind. -/
def via (perform : (c : σ.Call) → Program τ (σ.Reply c)) : Program σ α → Program τ α
  | done a => done a
  | note e rest => note e (rest.via perform)
  | call c next => (perform c).bind fun r => (next r).via perform

/-- Runs against `answer`, from a state: the value, the events in order, and the state at the
end. -/
def run (answer : (c : σ.Call) → S → σ.Reply c × S) : Program σ α → S → α × List Log.Event × S
  | done a, s => (a, [], s)
  | note e rest, s =>
    let (a, events, s) := rest.run answer s
    (a, e :: events, s)
  | call c next, s => (next (answer c s).1).run answer (answer c s).2

end Program

/-- A program that may fail. -/
abbrev Attempt (σ : Signature) (ε α : Type) := ExceptT ε (Program σ) α

namespace Attempt

variable {σ τ : Signature} {α ε δ : Type}

def ofProgram (p : Program σ (Except ε α)) : Attempt σ ε α := ExceptT.mk p

def ofExcept (r : Except ε α) : Attempt σ ε α := ExceptT.mk (.done r)

/-- Makes one call that may fail. -/
def ask (c : σ.Call) : Attempt σ ε (σ.Reply c) := ExceptT.lift (.ask c)

def log (level : Log.Level) (message : String) (fields : List (String × Log.Value)) :
    Attempt σ ε Unit :=
  ExceptT.lift (.log level message fields)

def mapError (f : ε → δ) (p : Attempt σ ε α) : Attempt σ δ α :=
  ExceptT.mk do return (← p.run).mapError f

end Attempt

end BucketAccess
