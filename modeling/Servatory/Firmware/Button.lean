/-! The front button: debouncing, short presses and the long press. Times are microseconds since the start. -/

namespace Servatory

def debounce : Nat := 30 * 1000

inductive ButtonAction
  | nextScreen
  | shutdownRequested
  deriving DecidableEq, Repr

structure Button where
  rawPressed : Bool
  rawChangedAt : Nat
  stablePressed : Bool
  pressedAt : Option Nat
  longPressSent : Bool
  deriving DecidableEq, Repr

namespace Button

def new (now : Nat) : Button := ⟨false, now, false, none, false⟩

/-- A sample that agrees with the last one for the debounce time becomes the stable state; a release ends a
    short press. -/
def settle (b : Button) (now : Nat) : Button × Option ButtonAction :=
  if b.stablePressed ≠ b.rawPressed ∧ now - b.rawChangedAt ≥ debounce then
    if b.rawPressed then
      ({ b with stablePressed := true, pressedAt := some now, longPressSent := false }, none)
    else
      ({ b with stablePressed := false, pressedAt := none },
        if b.longPressSent then none else some .nextScreen)
  else (b, none)

def update (b : Button) (pressed : Bool) (now longPress : Nat) : Button × Option ButtonAction :=
  if pressed ≠ b.rawPressed then ({ b with rawPressed := pressed, rawChangedAt := now }, none)
  else
    match b.settle now with
    | (b, some action) => (b, some action)
    | (b, none) =>
      if b.stablePressed && !b.longPressSent && b.pressedAt.any (fun started => now - started ≥ longPress) then
        ({ b with longPressSent := true }, some .shutdownRequested)
      else (b, none)

def heldFor (b : Button) (now : Nat) : Option Nat :=
  if b.stablePressed && !b.longPressSent then b.pressedAt.map (now - ·) else none

end Button

/-- What one call of `update` is given. -/
structure Sample where
  pressed : Bool
  now : Nat
  longPress : Nat
  deriving DecidableEq, Repr

namespace Button

def sample (b : Button) (x : Sample) : Button × Option ButtonAction := b.update x.pressed x.now x.longPress

/-- The state after some samples. -/
def after (b : Button) (samples : List Sample) : Button := samples.foldl (fun b x => (b.sample x).1) b

/-- The actions that some samples yield. -/
def actions (b : Button) : List Sample → List ButtonAction
  | [] => []
  | x :: rest => (b.sample x).2.toList ++ (b.sample x).1.actions rest

end Button
end Servatory
