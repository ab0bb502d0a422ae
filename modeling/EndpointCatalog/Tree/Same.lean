/-
EndpointCatalog.Tree.Same — when two trees hold the same value.

Numbers are compared by value, whatever their kind, with false as zero and
true as one; mappings are compared without regard to the order of keys.
-/
import EndpointCatalog.Tree

namespace EndpointCatalog.Tree

/-- A number as a sign and an exact size; `none` for what is no finite number. -/
def ratio? : Tree → Option (Int × Nat)
  | .bool b => some (if b then 1 else 0, 1)
  | .int n => some (n, 1)
  | .float x => x.toRatio?.map fun (num, den) => (if x.isNegative then -(num : Int) else num, den)
  | _ => none

/-- Whether two scalars hold the same value. -/
def sameScalar : Tree → Tree → Bool
  | .null, .null => true
  | .text s, .text t => s == t
  | .regex p m i, .regex q n j => p == q && m == n && i == j
  | a, b =>
    match ratio? a, ratio? b with
    | some (m, d), some (n, e) => m * (e : Int) == n * (d : Int)
    | none, none =>
      match a, b with
      | .float x, .float y => x == y || (x.isNaN && y.isNaN)
      | _, _ => false
    | _, _ => false

mutual

/-- Whether two trees hold the same value. -/
def same : Tree → Tree → Bool
  | .list xs, .list ys => sameItems xs ys
  | .map xs, .map ys => xs.length == ys.length && sameUnder ys xs
  | .list _, _ => false
  | .map _, _ => false
  | a, b => sameScalar a b

/-- Whether two lists hold the same values in the same order. -/
def sameItems : List Tree → List Tree → Bool
  | [], [] => true
  | x :: xs, y :: ys => same x y && sameItems xs ys
  | _, _ => false

/-- Whether another mapping has the same value under each of some keys. -/
def sameUnder (other : Entries) : List (Text × Tree) → Bool
  | [] => true
  | (key, x) :: rest =>
    (match Entries.get? key other with
      | some y => same x y
      | none => false) && sameUnder other rest

end

end EndpointCatalog.Tree
