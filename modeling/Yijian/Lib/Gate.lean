import Mathlib.Data.Bool.Basic

/-!
# A Flag and the Condition Variable of its One Waiter

A thread waits until a flag is down and puts it up again behind itself. Another thread takes
the flag down and notifies, both under the lock. A gate is the flag with the place of its
one waiter; that nobody sleeps while the flag is down is part of the type.

* `test`: the waiter evaluates its predicate once.
* `release`: the flag goes down, and the waiter is notified.
* `wake`: the waiter wakes up without a notification.

## Convention

The lock is not modelled: what is done under it is one step here. The predicate is evaluated under
the lock both before the waiter sleeps and after it has woken, so a release can come before the
one or the other, but never between the look at the flag and the sleep. This is where a
notification would be lost, and why the flag and the place of the waiter are one type. A waiter
that wakes up without a notification looks at the flag again and sleeps on.
-/

/-- The flag, and whether its waiter sleeps on the condition variable. -/
structure Gate where
  isWait : Bool
  asleep : Bool
  isWait_of_asleep : asleep = true → isWait = true
  deriving DecidableEq

namespace Gate

/-- The flag as it stands, and nobody sleeps. -/
def ofFlag (isWait : Bool) : Gate := ⟨isWait, false, nofun⟩

/-- The flag is up and the waiter sleeps. -/
def sleep : Gate := ⟨true, true, fun _ => rfl⟩

/-- One turn of the waiter: whether it passes, and the gate that it leaves behind. -/
def test (g : Gate) : Bool × Gate :=
  if g.isWait then (false, if g.asleep then g else sleep) else (true, ofFlag true)

/-- The flag goes down, and the waiter is notified. -/
def release (_ : Gate) : Gate := ofFlag false

/-- The waiter wakes up without a notification. -/
def wake (g : Gate) : Gate := ofFlag g.isWait

@[simp] theorem isWait_release (g : Gate) : g.release.isWait = false := rfl
@[simp] theorem isWait_wake (g : Gate) : g.wake.isWait = g.isWait := rfl

/-- The waiter passes if and only if the flag is down. -/
@[simp] theorem test_fst (g : Gate) : g.test.1 = !g.isWait := by
  cases h : g.isWait <;> simp [test, h]

/-- A turn of the waiter leaves the flag up. -/
@[simp] theorem isWait_test (g : Gate) : g.test.2.isWait = true := by
  unfold test
  split
  · rename_i h
    split
    · exact h
    · rfl
  · rfl

end Gate
