import AddonBindings.Fault

/-!
Contract: work that reports as it goes.

Owns:
- messages and their levels;
- an attempt: the messages so far, and a value or the failure that ended it;
- doing one attempt after the other.

Does not own: how a message is shown, which is in `AddonBindings.Console.Report`.
-/

namespace AddonBindings

/-- How a message is meant. -/
inductive Level where
  | info
  | success
  | warning
  | error
deriving DecidableEq, Repr

structure Message where
  level : Level
  text : String
deriving DecidableEq, Repr

/-- The messages of some work and its outcome.  Messages from before a failure are
kept. -/
structure Attempt (α : Type) where
  messages : List Message
  outcome : Except Fault α
deriving Repr

namespace Attempt

variable {α β : Type}

/-- A value without any message. -/
def done (value : α) : Attempt α :=
  ⟨[], .ok value⟩

/-- An outcome without any message. -/
def silent (outcome : Except Fault α) : Attempt α :=
  ⟨[], outcome⟩

/-- One message. -/
def report (level : Level) (text : String) : Attempt Unit :=
  ⟨[⟨level, text⟩], .ok ()⟩

/-- First one attempt and then, if it succeeds, the next with its value. -/
def andThen (first : Attempt α) (next : α → Attempt β) : Attempt β :=
  match first.outcome with
  | .ok value => ⟨first.messages ++ (next value).messages, (next value).outcome⟩
  | .error fault => ⟨first.messages, .error fault⟩

instance : Monad Attempt where
  pure := done
  bind := andThen

@[simp] theorem pure_eq_done (value : α) : (pure value : Attempt α) = done value := rfl

@[simp] theorem bind_eq_andThen (first : Attempt α) (next : α → Attempt β) :
    first >>= next = first.andThen next := rfl

@[simp] theorem silent_ok_andThen (value : α) (next : α → Attempt β) :
    (silent (.ok value)).andThen next = next value := by
  simp [andThen, silent]

@[simp] theorem silent_error_andThen (fault : Fault) (next : α → Attempt β) :
    (silent (.error fault)).andThen next = silent (.error fault) := by
  simp [andThen, silent]

@[simp] theorem mk_ok_andThen (messages : List Message) (value : α) (next : α → Attempt β) :
    (mk messages (.ok value)).andThen next =
      ⟨messages ++ (next value).messages, (next value).outcome⟩ := rfl

@[simp] theorem mk_error_andThen (messages : List Message) (fault : Fault) (next : α → Attempt β) :
    (mk messages (.error fault)).andThen next = ⟨messages, .error fault⟩ := rfl

/-- A message stands in front of everything that is reported after it. -/
@[simp] theorem report_andThen (level : Level) (text : String) (next : Unit → Attempt β) :
    (report level text).andThen next = ⟨⟨level, text⟩ :: (next ()).messages, (next ()).outcome⟩ := by
  simp [andThen, report]

end Attempt

end AddonBindings
