import Showcase.Screen.Rect

/-!
# Geometry

The size of a client's screen. Both axes lie between 1 and 1000, so that a screen always has a cell
and never grows without bound.
-/

namespace Showcase

/-- The largest size of an axis. -/
def Geometry.limit : Nat := 1000

structure Geometry where
  columns : Nat
  rows : Nat
  one_le_columns : 1 ≤ columns
  columns_le : columns ≤ Geometry.limit
  one_le_rows : 1 ≤ rows
  rows_le : rows ≤ Geometry.limit
  deriving DecidableEq

namespace Geometry

/-- The value nearest to the given one that an axis allows. -/
def clampAxis (value : Nat) : Nat := max 1 (min value limit)

theorem one_le_clampAxis (value : Nat) : 1 ≤ clampAxis value := Nat.le_max_left _ _

theorem clampAxis_le (value : Nat) : clampAxis value ≤ limit :=
  Nat.max_le.mpr ⟨by decide, Nat.min_le_right _ _⟩

def clamp (columns rows : Nat) : Geometry where
  columns := clampAxis columns
  rows := clampAxis rows
  one_le_columns := one_le_clampAxis columns
  columns_le := clampAxis_le columns
  one_le_rows := one_le_clampAxis rows
  rows_le := clampAxis_le rows

/-- A geometry of exactly the given size, if it is allowed. -/
def ofSize? (columns rows : Nat) : Option Geometry :=
  if allowed : (1 ≤ columns ∧ columns ≤ limit) ∧ (1 ≤ rows ∧ rows ≤ limit) then
    some ⟨columns, rows, allowed.1.1, allowed.1.2, allowed.2.1, allowed.2.2⟩
  else none

/-- The size of a client that never told its own. -/
def fallback : Geometry := clamp 80 24

instance : Inhabited Geometry := ⟨fallback⟩

def area (geometry : Geometry) : Screen.Rect := .ofSize geometry.columns geometry.rows

def text (geometry : Geometry) : String :=
  toString geometry.columns ++ "x" ++ toString geometry.rows

theorem ofSize?_eq_some {columns rows : Nat} {geometry : Geometry}
    (allowed : ofSize? columns rows = some geometry) :
    geometry.columns = columns ∧ geometry.rows = rows := by
  unfold ofSize? at allowed
  split at allowed
  · cases allowed
    exact ⟨rfl, rfl⟩
  · contradiction

end Geometry

end Showcase
