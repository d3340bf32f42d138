/-
# AlterRelay.Proofs.Checked.Machine — steps that can go wrong

Reading and translating are defined on lists, where nothing can go wrong: every
list has a front and every number a successor. A machine that does the same work
cuts strings at byte offsets, counts in words of 32 bits and looks tokens up by
their index. Each of these steps is partial, and taking one where it is not defined
is a trap.

A `Machine` has a state and three ways to end: with a value, with an error of the
language that it reads, or in a trap, which is `none`. A loop has to use up some of
what is left in its state with every turn, and a turn that does not is a trap as well.
That a machine ends with `some` result therefore says that it ends, and that none of
its steps was undefined.
-/
import AlterRelay.Proofs.Sql.Lossless

namespace AlterRelay.Checked

open AlterRelay.Sql (IsBoundary slice)

set_option autoImplicit false

/-! ## Partial steps -/

instance (source : String) (offset : Nat) : Decidable (IsBoundary source offset) :=
  inferInstanceAs (Decidable (String.Pos.Raw.IsValid source ⟨offset⟩))

/-- The text between two byte offsets, which have to be in order, within the source and
between characters. -/
def slice? (source : String) (start stop : Nat) : Option String :=
  if start ≤ stop ∧ IsBoundary source start ∧ IsBoundary source stop then
    some (slice source start stop)
  else none

/-- The next word of 32 bits, if there is one. -/
def increment? (number : UInt32) : Option UInt32 :=
  if number.toNat + 1 < UInt32.size then some (number + 1) else none

/-- One less, which zero has not. -/
def decrement? : Nat → Option Nat
  | 0 => none
  | number + 1 => some number

example : slice? "é" 1 2 = none := by decide

example : increment? 4294967295 = none := by decide

example : decrement? 0 = none := rfl

theorem increment?_ofNat {number : Nat} (room : number + 1 < UInt32.size) :
    increment? (.ofNat number) = some (.ofNat (number + 1)) := by
  have below : number < UInt32.size := by omega
  unfold increment?
  rw [UInt32.toNat_ofNat_of_lt' below, if_pos room, UInt32.ofNat_add]
  rfl

/-! ## Machines -/

abbrev Machine (σ ε α : Type) := StateT σ (ExceptT ε Option) α

section

variable {σ ε α β : Type} {state state' : σ}

/-- A partial step of a machine. -/
def checked (step : Option α) : Machine σ ε α :=
  fun state => step.map fun value => .ok (value, state)

/-- The machine ends with a value and in a state. -/
def done (value : α) (state : σ) : Option (Except ε (α × σ)) := some (.ok (value, state))

/-- The machine ends with an error. -/
def failed (error : ε) : Option (Except ε (α × σ)) := some (.error error)

/-- What the machine ends with, wherever that leaves it. -/
def result? (machine : Machine σ ε α) (state : σ) : Option (Except ε α) :=
  Option.map (Except.map Prod.fst) (machine state)

theorem checked_some (value : α) :
    (checked (some value) : Machine σ ε α) state = done value state :=
  rfl

theorem get_done : (get : Machine σ ε σ) state = done state state := rfl

theorem set_done : (set state' : Machine σ ε PUnit) state = done ⟨⟩ state' := rfl

theorem bind_done {machine : Machine σ ε α} {next : α → Machine σ ε β} {value : α}
    (ends : machine state = done value state') : (machine >>= next) state = next value state' := by
  change ExceptT.bind (machine state) (fun p => next p.1 p.2) = _
  rw [ends]
  rfl

theorem bind_failed {machine : Machine σ ε α} {next : α → Machine σ ε β} {error : ε}
    (ends : machine state = failed error) : (machine >>= next) state = failed error := by
  change ExceptT.bind (machine state) (fun p => next p.1 p.2) = _
  rw [ends]
  rfl

/-! ## Loops -/

/-- How a turn of a loop ends: with the values for another turn, or with the last one. -/
inductive Turn (α β : Type) where
  | again (value : α)
  | leave (result : β)

/-- Turns until one leaves; `left` says how much there is left to be used up. -/
def loop (left : σ → Nat) (body : α → Machine σ ε (Turn α β)) (value : α) (state : σ) :
    Option (Except ε (β × σ)) :=
  match body value state with
  | none => none
  | some (.error error) => failed error
  | some (.ok (.leave result, state')) => done result state'
  | some (.ok (.again value', state')) =>
      if left state' < left state then loop left body value' state' else none
termination_by left state

variable {left : σ → Nat} {body : α → Machine σ ε (Turn α β)} {value value' : α}

theorem loop_again (turn : body value state = done (.again value') state')
    (progress : left state' < left state) :
    loop left body value state = loop left body value' state' := by
  rw [loop, turn]
  exact if_pos progress

theorem loop_leave {result : β} (turn : body value state = done (.leave result) state') :
    loop left body value state = done result state' := by
  rw [loop, turn]
  rfl

theorem loop_failed {error : ε} (turn : body value state = failed error) :
    loop left body value state = failed error := by
  rw [loop, turn]
  rfl

end

end AlterRelay.Checked
