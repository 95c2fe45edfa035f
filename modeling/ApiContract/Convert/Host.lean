import ApiContract.Contract.Document
import ApiContract.Schema.Reader
import ApiContract.Yaml.Node

/-!
What a run has of the machine that it is on. Nested data is followed by calls one inside the other, and
there is room for so many calls only. Which data that is too much for is up to the machine, but all that
is nested no deeper than some number of levels has room. A disk can be full.
-/

namespace ApiContract.Convert

open ApiContract.Schema

/-- Nested data that is followed to its end: the declarations under a root that are read, a type that is
expanded, a value that is copied, written to a file (which holds YAML or not) or printed, and the node of
a text that is composed. -/
inductive Descent where
  | reading (root : Xml.Node)
  | expanding (x : Expansion)
  | copying (v : Value)
  | rendering (yaml : Bool) (v : Value)
  | printing (v : Value)
  | composing (n : Yaml.Node)

/-- How deep the data is nested. -/
def Descent.depth : Descent → Nat
  | reading root => rootDepth root
  | expanding x => x.depth
  | copying v | rendering _ v | printing v => v.depth
  | composing n => n.depth

/-- The room for calls one inside the other. What is nested no deeper than `room` always has it. -/
structure Stack where
  room : Nat
  fits : Descent → Bool
  fits_of_depth_le : ∀ x, x.depth ≤ room → fits x = true

/-- How deep data may be nested where a thousand calls have room. Each kind of data takes other calls for
a level. -/
def Descent.limit : Descent → Nat
  | reading _ => 970
  | expanding _ => 240
  | copying _ => 480
  | rendering yaml _ => if yaml then 310 else 970
  | printing _ => 970
  | composing _ => 470

/-- The room for a thousand calls. -/
def Stack.standard : Stack where
  room := 100
  fits x := x.depth ≤ x.limit
  fits_of_depth_le x h := by
    have hlimit : 100 ≤ x.limit := by
      cases x with
      | rendering yaml _ => cases yaml <;> exact Nat.le_of_ble_eq_true rfl
      | _ => exact Nat.le_of_ble_eq_true rfl
    exact decide_eq_true (Nat.le_trans h hlimit)

/-- A disk that is full: so many bytes arrive on it, and the system tells why there are no more. -/
structure FullDisk where
  arrived : Nat
  message : String

/-- A machine. -/
structure Host where
  stack : Stack
  disk : Option FullDisk

/-- A machine with room for a thousand calls, whose disk is not full. -/
def Host.standard : Host := ⟨.standard, none⟩

end ApiContract.Convert
