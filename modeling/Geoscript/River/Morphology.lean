import Geoscript.Graph.Recording

/-! Thins shapes by patterns of pixels: a one where a pixel must be set, a two where it must not be, and a zero where
it does not matter. -/

namespace Geoscript.River

open Geoscript.Graph

/-! ### Patterns -/

abbrev Pattern := List (List Value)

/-- One where a row has the wanted value and zero elsewhere, for its first `width` cells. A row must have
that many. -/
def markRow (wanted : Value) : Nat → List Value → Except Failure (List Value)
  | 0, cells => .ok cells
  | _ + 1, [] => .error .outOfRange
  | width + 1, v :: cells => do
    return .int (if v.same wanted then 1 else 0) :: (← markRow wanted width cells)

/-- One where a matrix has the wanted value and zero elsewhere. The first row says how wide it is. -/
def markAll (wanted : Value) (m : Pattern) : Except Failure Pattern :=
  match m with
  | [] => .error .outOfRange
  | row :: _ => m.mapM (markRow wanted row.length)

/-- Marks the cells of a matrix that have the wanted value. The marks replace the cells, so what comes
after sees them. -/
def splitPattern (wanted : Value) : StateT Pattern (Except Failure) Pattern := do
  let marked ← (markAll wanted (← get) : Except Failure Pattern)
  set marked
  return marked

def markValue (wanted : Value) (width : Nat) (row : Value) : Except Failure Value :=
  match row with
  | .list cells => do return .list (← markRow wanted width cells)
  | row =>
    if width = 0 then .ok row
    else
      match row with
      | .str s => .error (if s.isEmpty then .outOfRange else .wrongType)
      | .dict _ => .error .missingKey
      | _ => .error .wrongType

def splitValue (matrix wanted : Value) : Except Failure Value := do
  match matrix with
  | .list [] => .error .outOfRange
  | .list (row :: rows) =>
    let width ← row.size
    return .list (← (row :: rows).mapM (markValue wanted width))
  | .str s => .error (if s.isEmpty then .outOfRange else .wrongType)
  | .dict _ => .error .missingKey
  | _ => .error .wrongType

def ofInts (rows : List (List Int)) : Pattern :=
  rows.map fun row => row.map Value.int

def kernel3 (m : Pattern) : Term :=
  server "Kernel.fixed" [3, 3, Value.list (m.map Value.list)]

/-- The kernels of the pixels that a pattern wants set and of those that it wants clear. -/
def hitAndMiss (rows : List (List Int)) : Build (Term × Term) := do
  let (hit, seen) ← lift ((splitPattern (.int 1)).run (ofInts rows))
  let (miss, _) ← lift ((splitPattern (.int 2)).run seen)
  return (← (kernel3 hit).share, ← (kernel3 miss).share)

/-! ### Finding and removing patterns -/

/-- Where the pixels of one kernel are set and those of another are clear. -/
def hitOrMiss (image hit miss : Term) : Term := do
  let hits ← (image.call "reduceNeighborhood" [reducer "min", hit]).share
  let misses ← (image.call "Not" [] |>.call "reduceNeighborhood" [reducer "min", miss]).share
  hits.call "And" [misses]

def rotated (kernel : Term) : Term :=
  kernel.call "rotate" [1]

/-- Removes from `result` what a pair of kernels finds in `image result`, `n` times, each time with the
kernels turned by a quarter. -/
def removeTurning (image : Term → Term) : Nat → Term → Term → Term → Build Term
  | 0, result, _, _ => pure result
  | n + 1, result, hit, miss => do
    let result ← (result.call "subtract" [hitOrMiss (image result) hit miss]).share
    removeTurning image n result (← (rotated hit).share) (← (rotated miss).share)

/-- The kernels of the two patterns that thinning removes. -/
structure ThinningKernels where
  hit₁ : Term
  miss₁ : Term
  hit₂ : Term
  miss₂ : Term

def thin : Nat → Term → ThinningKernels → Build (Term × ThinningKernels)
  | 0, result, k => pure (result, k)
  | n + 1, result, k => do
    let result ← (result.call "subtract" [hitOrMiss result k.hit₁ k.miss₁]).share
    let hit₁ ← (rotated k.hit₁).share
    let miss₁ ← (rotated k.miss₁).share
    let result ← (result.call "subtract" [hitOrMiss result k.hit₂ k.miss₂]).share
    let hit₂ ← (rotated k.hit₂).share
    let miss₂ ← (rotated k.miss₂).share
    thin n result ⟨hit₁, miss₁, hit₂, miss₂⟩

def countBelow (n : Number) : Except Failure Nat :=
  match n with
  | .int i => .ok i.toNat
  | .double d =>
    match d.parts with
    | .finite negative mantissa exponent =>
      if negative then .ok 0
      else if 0 ≤ exponent then .ok (mantissa * twoPow exponent.toNat)
      else
        let unit := twoPow (-exponent).toNat
        .ok ((mantissa + unit - 1) / unit)
    | .infinity negative => if negative then .ok 0 else .error .tooLarge
    | .notANumber => .ok 0

/-- Thins a shape to lines. The second method wants longer straight pieces. -/
def skeletonize (image : Term) (iterations method : Value) : Term := do
  let second := method.isInt 2
  let (hit₁, miss₁) ← hitAndMiss
    (if second then [[2, 2, 2], [0, 1, 0], [0, 1, 0]] else [[2, 2, 2], [0, 1, 0], [1, 1, 1]])
  let (hit₂, miss₂) ← hitAndMiss
    (if second then [[2, 2, 0], [2, 1, 1], [0, 1, 1]] else [[2, 2, 0], [2, 1, 1], [0, 1, 0]])
  let count ← lift (do countBelow (← iterations.number))
  let (result, _) ← thin (4 * count) image ⟨hit₁, miss₁, hit₂, miss₂⟩
  result.call "rename" [.list ["clRaw"]]

def endpoints (lines : Term) : Term := do
  let (hit, miss) ← hitAndMiss [[0, 0, 0], [2, 1, 2], [2, 2, 2]]
  let result ← removeTurning (fun _ => lines) 4 lines hit miss
  lines.call "subtract" [result]

def corners (lines : Term) : Term := do
  let (hit, miss) ← hitAndMiss [[2, 2, 0], [2, 1, 1], [0, 1, 0]]
  let result ← removeTurning id 4 lines hit miss
  lines.call "subtract" [result]

end Geoscript.River
