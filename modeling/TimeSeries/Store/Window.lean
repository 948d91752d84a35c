import TimeSeries.Ranged

/-! The insert window: how far a new point may lie from the newest one. -/

namespace TimeSeries

structure Tolerance where
  past : Option Nat := none
  future : Option Nat := none
  deriving DecidableEq

structure InsertWindow where
  tolerance : Tolerance
  newest : Option Timestamp := none
  deriving DecidableEq

namespace InsertWindow

/-- Distances are cut off at the largest timestamp, and a limit of at least that much holds no
point back. -/
def within (later earlier : Timestamp) (limit : Option Nat) : Bool :=
  match limit with
  | none => true
  | some limit =>
    let distance : Timestamp := Ranged.clamp (later.val - earlier.val)
    distance ≤ (Ranged.clamp limit : Timestamp)

def contains (window : InsertWindow) (timestamp : Timestamp) : Bool :=
  match window.newest with
  | none => true
  | some newest =>
    within timestamp newest window.tolerance.future &&
      within newest timestamp window.tolerance.past

def update (window : InsertWindow) (timestamp : Timestamp) : InsertWindow :=
  match window.newest with
  | none => { window with newest := some timestamp }
  | some newest => { window with newest := some (if newest < timestamp then timestamp else newest) }

end InsertWindow

end TimeSeries
