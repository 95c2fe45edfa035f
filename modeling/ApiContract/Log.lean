/-!
Logs: messages with levels, and computations that write them on the way to a result or a failure.
The messages that were written before a failure stay.
-/

namespace ApiContract

/-- The level of a message. -/
inductive Level where
  | debug | info | warning | error | critical
  deriving Repr, DecidableEq

namespace Level

/-- The name of a level. -/
def text : Level → String
  | debug => "DEBUG"
  | info => "INFO"
  | warning => "WARNING"
  | error => "ERROR"
  | critical => "CRITICAL"

/-- The number of a level: the higher, the graver. -/
def number : Level → Nat
  | debug => 10
  | info => 20
  | warning => 30
  | error => 40
  | critical => 50

end Level

/-- A message. -/
structure LogEntry where
  level : Level
  message : String
  deriving Repr, DecidableEq

/-- Messages of one level. -/
def LogEntry.all (level : Level) (messages : List String) : List LogEntry :=
  messages.map fun m => ⟨level, m⟩

/-- A result or a failure, and the messages on the way to it. -/
structure Logged (ε α : Type) where
  log : List LogEntry
  result : Except ε α

namespace Logged

variable {ε α β : Type}

/-- A result without messages. -/
def ofExcept (r : Except ε α) : Logged ε α := ⟨[], r⟩

/-- Messages alone. -/
def write (entries : List LogEntry) : Logged ε Unit := ⟨entries, .ok ()⟩

/-- A failure. -/
def fail (e : ε) : Logged ε α := ⟨[], .error e⟩

instance : Monad (Logged ε) where
  pure a := ⟨[], .ok a⟩
  bind x f := match x.result with
    | .ok a =>
      let y := f a
      ⟨x.log ++ y.log, y.result⟩
    | .error e => ⟨x.log, .error e⟩

@[simp] theorem result_pure (a : α) : (pure a : Logged ε α).result = .ok a := rfl

@[simp] theorem result_bind (x : Logged ε α) (f : α → Logged ε β) :
    (x >>= f).result = x.result >>= fun a => (f a).result := by
  cases h : x.result <;> simp [bind, Except.bind, h]

@[simp] theorem result_ofExcept (r : Except ε α) : (ofExcept r).result = r := rfl

@[simp] theorem result_write (entries : List LogEntry) :
    (write entries : Logged ε Unit).result = .ok () := rfl

@[simp] theorem result_fail (e : ε) : (fail e : Logged ε α).result = .error e := rfl

end Logged

end ApiContract
