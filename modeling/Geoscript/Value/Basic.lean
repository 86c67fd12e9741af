import Geoscript.Failure
import Geoscript.Number.Double

/-! What functions on images and tables take and give: plain data, and references to the nodes of a graph of server
objects. -/

namespace Geoscript

inductive Value where
  | null
  | bool (b : Bool)
  | int (i : Int)
  | float (d : Double)
  | str (s : String)
  | list (items : List Value)
  | dict (entries : List (String × Value))
  | node (index : Nat)
  deriving Repr, Inhabited

abbrev Entries := List (String × Value)

namespace Value

/-! ### Equality -/

mutual

def beq : Value → Value → Bool
  | null, null => true
  | bool a, bool b => a == b
  | int a, int b => decide (a = b)
  | float a, float b => decide (a = b)
  | str a, str b => decide (a = b)
  | list a, list b => beqList a b
  | dict a, dict b => beqEntries a b
  | node a, node b => decide (a = b)
  | _, _ => false

def beqList : List Value → List Value → Bool
  | [], [] => true
  | a :: as, b :: bs => beq a b && beqList as bs
  | _, _ => false

def beqEntries : List (String × Value) → List (String × Value) → Bool
  | [], [] => true
  | (k, a) :: as, (l, b) :: bs => decide (k = l) && beq a b && beqEntries as bs
  | _, _ => false

end

mutual

theorem beq_iff_eq : ∀ a b : Value, beq a b ↔ a = b
  | null, b => by cases b <;> simp [beq]
  | bool _, b => by cases b <;> simp [beq]
  | int _, b => by cases b <;> simp [beq]
  | float _, b => by cases b <;> simp [beq]
  | str _, b => by cases b <;> simp [beq]
  | list as, b => by cases b <;> simp [beq, beqList_iff_eq as]
  | dict as, b => by cases b <;> simp [beq, beqEntries_iff_eq as]
  | node _, b => by cases b <;> simp [beq]

theorem beqList_iff_eq : ∀ as bs : List Value, beqList as bs ↔ as = bs
  | [], bs => by cases bs <;> simp [beqList]
  | a :: as, bs => by cases bs <;> simp [beqList, beq_iff_eq a, beqList_iff_eq as]

theorem beqEntries_iff_eq : ∀ as bs : List (String × Value), beqEntries as bs ↔ as = bs
  | [], bs => by cases bs <;> simp [beqEntries]
  | (k, a) :: as, bs => by
    cases bs with
    | nil => simp [beqEntries]
    | cons b bs =>
      obtain ⟨l, b⟩ := b
      simp [beqEntries, beq_iff_eq a, beqEntries_iff_eq as, and_assoc]

end

instance : DecidableEq Value := fun a b => decidable_of_iff _ (beq_iff_eq a b)

/-! ### Dictionaries -/

def put : Entries → String → Value → Entries
  | [], k, v => [(k, v)]
  | (l, w) :: rest, k, v => if l = k then (k, v) :: rest else (l, w) :: put rest k v

def merge (a b : Entries) : Entries :=
  b.foldl (fun es (k, v) => put es k v) a

def insertSorted (k : String) (v : Value) : Entries → Entries
  | [] => [(k, v)]
  | (l, w) :: rest => if l < k then (l, w) :: insertSorted k v rest else (k, v) :: (l, w) :: rest

mutual

/-- The value with the entries of every dictionary in the order of their keys. -/
def canonical : Value → Value
  | list items => list (canonicalList items)
  | dict entries => dict (canonicalEntries entries)
  | v => v

def canonicalList : List Value → List Value
  | [] => []
  | v :: vs => canonical v :: canonicalList vs

def canonicalEntries : Entries → Entries
  | [] => []
  | (k, v) :: rest => insertSorted k (canonical v) (canonicalEntries rest)

end

mutual

def references : Value → List Nat
  | list items => referencesList items
  | dict entries => referencesEntries entries
  | node i => [i]
  | _ => []

def referencesList : List Value → List Nat
  | [] => []
  | v :: vs => references v ++ referencesList vs

def referencesEntries : Entries → List Nat
  | [] => []
  | (_, v) :: rest => references v ++ referencesEntries rest

end

mutual

def renumber (f : Nat → Nat) : Value → Value
  | list items => list (renumberList f items)
  | dict entries => dict (renumberEntries f entries)
  | node i => node (f i)
  | v => v

def renumberList (f : Nat → Nat) : List Value → List Value
  | [] => []
  | v :: vs => renumber f v :: renumberList f vs

def renumberEntries (f : Nat → Nat) : Entries → Entries
  | [] => []
  | (k, v) :: rest => (k, renumber f v) :: renumberEntries f rest

end

/-! ### Numbers and truth -/

def number? : Value → Option Number
  | bool b => some (.int (if b then 1 else 0))
  | int i => some (.int i)
  | float d => some (.double d)
  | _ => none

def ofNumber : Number → Value
  | .int i => int i
  | .double d => float d

def number (v : Value) : Except Failure Number :=
  match v.number? with
  | some n => .ok n
  | none => .error .wrongType

def ofNumber? (n : Option Number) : Except Failure Value :=
  match n with
  | some n => .ok (ofNumber n)
  | none => .error .tooLarge

/-- The double that a value stands for. A text stands for the numeral that it is. -/
def toDouble (v : Value) : Except Failure Double :=
  match v with
  | str s =>
    match Numeral.read? s.toList with
    | some n => .ok (Double.ofNumeral n)
    | none => .error .badNumeral
  | v => do
    match (← v.number).toDouble? with
    | some d => .ok d
    | none => .error .tooLarge

/-- Whether a value counts as true: all but nothing, zero and what is empty. -/
def isTrue : Value → Bool
  | null => false
  | bool b => b
  | int i => i != 0
  | float d => !d.isZero
  | str s => !s.isEmpty
  | list items => !items.isEmpty
  | dict entries => !entries.isEmpty
  | node _ => true

mutual

/-- Whether two values are equal: numbers by their values, dictionaries whatever their order. -/
def same : Value → Value → Bool
  | str a, b => b = .str a
  | list a, b =>
    match b with
    | list b => sameList a b
    | _ => false
  | dict a, b =>
    match b with
    | dict b => a.length == b.length && sameEntries a b
    | _ => false
  | null, b => b = .null
  | node i, b => b = .node i
  | bool a, b => sameNumber (.bool a) b
  | int a, b => sameNumber (.int a) b
  | float a, b => sameNumber (.float a) b
where
  sameNumber (a b : Value) : Bool :=
    match a.number?, b.number? with
    | some m, some n => m.same n
    | _, _ => false

def sameList : List Value → List Value → Bool
  | [], [] => true
  | a :: as, b :: bs => same a b && sameList as bs
  | _, _ => false

/-- Whether the second dictionary has an equal value under each key of the first. -/
def sameEntries : Entries → Entries → Bool
  | [], _ => true
  | (k, a) :: as, bs =>
    (match bs.lookup k with
      | some b => same a b
      | none => false) && sameEntries as bs

end

def isInt (v : Value) (i : Int) : Bool :=
  same v (.int i)

/-! ### Parts -/

/-- The item of a list at an index; a negative index counts from the end. -/
def itemAt (items : List Value) (i : Int) : Except Failure Value :=
  let k : Int := if i < 0 then items.length + i else i
  if k < 0 then .error .outOfRange
  else
    match items[k.toNat]? with
    | some v => .ok v
    | none => .error .outOfRange

def part (v key : Value) : Except Failure Value :=
  match v, key with
  | dict entries, str k =>
    match entries.lookup k with
    | some v => .ok v
    | none => .error .missingKey
  | dict _, list _ => .error .wrongType
  | dict _, dict _ => .error .wrongType
  | dict _, _ => .error .missingKey
  | list items, int i => itemAt items i
  | list items, bool b => itemAt items (if b then 1 else 0)
  | str s, int i => itemAt (s.toList.map fun c => str (String.singleton c)) i
  | str s, bool b =>
    itemAt (s.toList.map fun c => str (String.singleton c)) (if b then 1 else 0)
  | _, _ => .error .wrongType

def entries (v : Value) : Except Failure Entries :=
  match v with
  | dict es => .ok es
  | _ => .error .notAnObject

def size (v : Value) : Except Failure Nat :=
  match v with
  | str s => .ok s.length
  | list items => .ok items.length
  | dict es => .ok es.length
  | _ => .error .wrongType

def items (v : Value) : Except Failure (List Value) :=
  match v with
  | str s => .ok (s.toList.map fun c => str (String.singleton c))
  | list vs => .ok vs
  | dict es => .ok (es.map fun (k, _) => str k)
  | _ => .error .wrongType

def text? : Value → Option String
  | str s => some s
  | _ => none

end Value

end Geoscript
