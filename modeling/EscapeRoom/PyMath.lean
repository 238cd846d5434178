import Mathlib.Order.MinMax
import Mathlib.Algebra.Order.Group.Abs

namespace EscapeRoom
set_option autoImplicit true

/-- The functions of Python's `math` that the package calls, over the numbers it computes with. -/
class PyMath (R : Type) where
  hypot : R → R → R
  atan2 : R → R → R
  cos : R → R
  sin : R → R
  tan : R → R

/-- The exceptions an ill-timed read can raise. -/
inductive PyError where
  | attributeError
  | indexError
  | keyError
  | typeError
  | valueError
deriving DecidableEq, Repr

/-- `data[i]`, counting from the end for a negative index. -/
def pyGet (data : List α) (i : Int) : Except PyError α :=
  let j := if i < 0 then i + data.length else i
  if j < 0 then .error .indexError
  else match data[j.toNat]? with
    | some a => .ok a
    | none => .error .indexError

/-- `min(xs, key=key)`: the first of the smallest elements, `none` for its `ValueError`. -/
def pyMin [LT K] [DecidableLT K] (key : α → K) : List α → Option α
  | [] => none
  | x :: xs => some (xs.foldl (fun best y => if key y < key best then y else best) x)

def clamp [LinearOrder R] (x lo hi : R) : R := max lo (min hi x)

theorem pyGet_ofNat (data : List α) (i : Nat) (h : i < data.length) :
    pyGet data i = .ok data[i] := by
  have hi : ¬ (i : Int) < 0 := by omega
  simp only [pyGet, if_neg hi, Int.toNat_natCast, List.getElem?_eq_getElem h]

theorem pyMin_eq_none [LT K] [DecidableLT K] (key : α → K) (xs : List α) :
    pyMin key xs = none ↔ xs = [] := by
  cases xs with
  | nil => simp [pyMin]
  | cons => simp [pyMin]

theorem clamp_le [LinearOrder R] {x lo hi : R} (h : lo ≤ hi) : clamp x lo hi ≤ hi :=
  max_le h (min_le_left _ _)

theorem le_clamp [LinearOrder R] (x lo hi : R) : lo ≤ clamp x lo hi := le_max_left _ _

theorem abs_clamp_le [AddCommGroup R] [LinearOrder R] [IsOrderedAddMonoid R] {m : R} (x : R)
    (h : 0 ≤ m) : |clamp x (-m) m| ≤ m :=
  abs_le.2 ⟨le_clamp _ _ _, clamp_le (neg_le_self h)⟩

end EscapeRoom
