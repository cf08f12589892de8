import CommandShell.Number.Power

/-!
# Cancel signals

Signals are handles on shared switches: a copy of a handle shares its switch, a switch that is on
stays on. Polling for a cancel request starts after a delay and goes on at an interval of at least
one millisecond.
-/

namespace CommandShell

/-! ## Signals -/

/-- Some handles, each with the number of its switch, and the switches. -/
structure SignalBoard where
  switches : List Bool
  handles : List Nat
  /-- Every handle has a switch. -/
  lt_length : ∀ i ∈ handles, i < switches.length

namespace SignalBoard

/-- No signal was handed out. -/
def empty : SignalBoard :=
  ⟨[], [], fun _ h => absurd h List.not_mem_nil⟩

/-- How many handles there are. -/
def count (b : SignalBoard) : Nat :=
  b.handles.length

def isCanceled (b : SignalBoard) (handle : Nat) : Bool :=
  ((b.handles[handle]?).bind fun i => b.switches[i]?).getD false

/-- Turns the switch of a handle on. -/
def cancel (b : SignalBoard) (handle : Nat) : SignalBoard :=
  match b.handles[handle]? with
  | some i =>
    { b with
      switches := b.switches.set i true
      lt_length := fun j hj => by
        rw [List.length_set]
        exact b.lt_length j hj }
  | none => b

/-- A further handle on the switch of a handle. -/
def share (b : SignalBoard) (handle : Nat) : SignalBoard where
  switches := b.switches
  handles := b.handles ++ (b.handles[handle]?).toList
  lt_length i hi := by
    rcases List.mem_append.1 hi with hold | hnew
    · exact b.lt_length i hold
    · exact b.lt_length i (List.mem_of_getElem? (Option.mem_toList.1 hnew))

/-- A handle on a switch of its own; the switch is off. -/
def fresh (b : SignalBoard) : SignalBoard where
  switches := b.switches ++ [false]
  handles := b.handles ++ [b.switches.length]
  lt_length i hi := by
    rw [List.length_append]
    rcases List.mem_append.1 hi with hold | hnew
    · exact Nat.lt_add_right _ (b.lt_length i hold)
    · rw [List.mem_singleton.1 hnew]
      exact Nat.lt_succ_self _

/-- The state of every handle, in order. -/
def states (b : SignalBoard) : List Bool :=
  b.handles.map fun i => (b.switches[i]?).getD false

end SignalBoard

/-! ## Polling -/

/-- When cancel requests are polled for, in milliseconds. -/
structure CancelTiming where
  delay : Nat := 200
  interval : Nat := 100
deriving DecidableEq

/-- The interval that is used. -/
def CancelTiming.pollInterval (t : CancelTiming) : Nat :=
  max t.interval 1

/-- Nanoseconds from the start of a command to the n-th poll, counted from 1. -/
def CancelTiming.nanosToPoll (t : CancelTiming) (n : Nat) : Nat :=
  (t.delay + (n - 1) * t.pollInterval) * Number.tenTo 6

end CommandShell
