/-! Long tables are kept in a code. The bits of a text are guessed one after the other from what has followed the same
contexts before: the last characters, the word, the field, and the characters after an earlier place that fits. The code
says what came, in digits to base 89, and few digits are needed for what was expected. -/

namespace Geoscript.Text.Coded

/-! ### Probabilities -/

/-- 256 times the logarithm to base 2, linear between powers of 2. -/
def log (n : Nat) : Int32 :=
  let k := n.log2
  Int32.ofNat (256 * k + (256 * n) >>> k - 256)

def logs : Array Int32 := (Array.range 256).map fun n => log (n + 1)

/-- The logit of a probability, given in parts of 4096. -/
def logits : Array Int32 := (Array.range 4096).map fun p => log (2 * p + 1) - log (8191 - 2 * p)

/-- The probability with a logit, in parts of 65536. -/
def probability (d : Int32) : Int32 :=
  let n := d.abs.toUInt32.toUInt64
  let e : UInt64 := if n < 4096 then (256 + n % 256) <<< (n / 256) else 0xFF8000
  let p := (65536 * e / (e + 256)).toUInt32.toInt32
  if d < 0 then 65536 - p else p

/-! ### Contexts -/

def hash (n : UInt64) : UInt64 := (n * 0x9E3779B97F4A7C15) >>> 32

/-- Where it is kept what follows a context and the first bits of a character. -/
def slot (context bits : UInt64) : Nat :=
  let x := (context + bits * 0x9E3779B1).toUInt32 * 0x85EBCA6B
  (((x ^^^ (x >>> 15)) * 0xC2B2AE35) >>> 8).toNat

/-- What follows a context, after one more bit: the probability of a one, how often the context was met up to 100, and
the last bit with the number of times it came in a row. -/
def afterBit (s : UInt32) (one : Bool) : UInt32 :=
  let p := s &&& 0xFFFF
  let n := s >>> 16 &&& 127
  let row := s >>> 24
  let p := if one then p + (0xFFFF - p) * 2 / (2 * n + 3) else p - p * 2 / (2 * n + 3)
  let n := if n < 100 then n + 1 else n
  let last : UInt32 := if one then 1 else 0
  let row := if s >>> 23 &&& 1 == last then (if row < 255 then row + 1 else row) else 1
  p ||| n <<< 16 ||| last <<< 23 ||| row <<< 24

def isLetter (c : UInt64) : Bool :=
  let small := c ||| 32
  97 ≤ small && small ≤ 122 || 127 < c

/-- Where the text stands: the last characters, the letters since the last other character, the word before, and the
field. Words of a row are mostly in order, and so are rows: a word is compared with the one before, or with the first of
the row before. -/
structure Standing where
  recent : UInt64 := 0
  word : UInt64 := 0
  before : UInt64 := 0
  field : UInt64 := 0
  row : Nat := 0
  start : Nat := 0
  other : Nat := 0
  same : Bool := false

/-- After a text that ends with the character. -/
def Standing.after (s : Standing) (text : ByteArray) (c : UInt64) : Standing :=
  let n := text.size
  let s' := { s with
    recent := s.recent <<< 8 ||| c
    word := if isLetter c then (s.word + c + 1) * 0x2F0B4C47 &&& 0xFFFFFFFF else 0
    before := if isLetter c || s.word == 0 then s.before else s.word
    field := if c == 10 || c == 36 || s.recent &&& 0xFF == 36 then c else s.field }
  if c == 10 then { s' with row := n, start := n, other := s.row, same := true }
  else if c == 32 then { s' with start := n, other := s.start, same := s.start != s.row }
  else { s' with same := s.same && (text.get! (s.other + (n - 1 - s.start))).toUInt64 == c }

/-- How far the word has come, whether it has been the other one so far, and whether it is the first of the row. -/
def Standing.within (s : Standing) (text : ByteArray) : Nat :=
  2 * min (text.size - s.start) 15 + s.same.toNat + if s.start = s.row then 32 else 0

def Standing.contexts (s : Standing) (text : ByteArray) : Array UInt64 :=
  let next (k : Nat) : UInt64 :=
    if s.same then (text[s.other + (text.size - s.start) + k]?.getD 0).toUInt64 else 0
  let order := (s.same.toUInt64 * 2 + (s.start == s.row).toUInt64) * 256 + next 0
  #[(s.recent &&& 0xFF) * 16, (s.recent &&& 0xFFFF) * 16 + 1, (s.recent &&& 0xFFFFFF) * 16 + 2,
    (s.recent &&& 0xFFFFFFFF) * 16 + 3, s.word * 16 + 4, (s.before * 65536 + s.word) * 16 + 5,
    (s.recent >>> 8 &&& 0xFFFF) * 16 + 6, (s.field * 256 + (s.recent &&& 0xFF)) * 16 + 7, 8, order * 16 + 9,
    (order * 256 + next 1) * 16 + 10, ((s.within text).toUInt64 * 256 + (s.recent &&& 0xFF)) * 16 + 11,
    (s.recent >>> 16 &&& 0xFFFF) * 16 + 13].map hash

def Standing.key (s : Standing) : Nat :=
  (((s.recent &&& 0xFFFFFFFFFF) * 0x9E3779B97F4A7C15) >>> 46).toNat

/-! ### Guesses -/

/-- How many signals there are for a guess: two for each context, two for the earlier place and a constant one. -/
def signalCount : Nat := 29

def weighed (weights signals : Array Int32) (start : Nat) : Nat → Int32 → Int32
  | 0, sum => sum
  | n + 1, sum => weighed weights signals start n (sum + weights[start + n]! * signals[n]!)

def adjusted (signals : Array Int32) (start : Nat) (miss : Int32) : Nat → Array Int32 → Array Int32
  | 0, weights => weights
  | n + 1, weights =>
    adjusted signals start miss n (weights.set! (start + n) (weights[start + n]! + (miss * signals[n]!) >>> 15))

/-! ### Reading -/

/-- The visible characters of ASCII but for some that mean something in a script. -/
def digits : List Char :=
  ((List.range' 33 94).map Char.ofNat).filter fun c => !"\"\\\x7b\x7d-".contains c

def digitValues (code : String) : Array Nat :=
  let values : Array (Option Nat) := (Array.range 128).map fun n => digits.idxOf? (Char.ofNat n)
  code.toList.toArray.filterMap fun c => values[c.toNat]?.join

/-- How far a code has been read, and what has been learned from it: what follows the contexts, the weights of the
signals by the first bits, by the last character and within the word, and how often an earlier place of some length was
right. -/
structure Reader where
  code : Array Nat
  place : Nat := 5
  value : Nat := (code.take 5).foldl (fun n d => n * 89 + d) 0
  range : Nat := 5584059449
  slots : Array UInt32 := Array.replicate (1 <<< 24) 32768
  weights : Array Int32 := Array.replicate (576 * signalCount) 8000
  trust : Array Nat := Array.replicate 32 49152

namespace Reader

/-- Takes digits until the range is wide enough for a bit. -/
def fill (r : Reader) : Nat → Reader
  | 0 => r
  | n + 1 =>
    if r.range < 1 <<< 25 then
      let digit := r.code.getD r.place 0
      fill { r with place := r.place + 1, value := r.value * 89 + digit, range := r.range * 89 } n
    else r

/-- The next bit that has a probability of being one. -/
def take (r : Reader) (p : Nat) : Bool × Reader :=
  let r := r.fill 3
  let bound := (r.range * p) >>> 16
  if r.value < bound then (true, { r with range := bound })
  else (false, { r with value := r.value - bound, range := r.range - bound })

/-- What the contexts say about the next bit. -/
def signals (r : Reader) (found : Array Nat) : Array Int32 := Id.run do
  let mut signals : Array Int32 := Array.emptyWithCapacity signalCount
  for k in found do
    let s := r.slots[k]!
    if s >>> 16 &&& 127 == 0 then
      signals := (signals.push 0).push 0
    else
      let row := logs[(s >>> 24).toNat]!
      signals := (signals.push logits[(s >>> 4 &&& 0xFFF).toNat]!).push (if s >>> 23 &&& 1 == 1 then row else -row)
  return signals

/-- The next bit of a character, after its first bits. An earlier place of some length may expect a character. -/
def bit (r : Reader) (contexts : Array UInt64) (last within expected long b bits : Nat) : Bool × Reader := Id.run do
  let found := contexts.map (slot · bits.toUInt64)
  let signals := r.signals found
  let hit := expected >>> (9 - b) == bits
  let sign : Int32 := if !hit then 0 else if expected >>> (8 - b) &&& 1 == 1 then 1 else -1
  let signals := (signals.push (sign * logits[r.trust[long]! >>> 4]!)).push (sign * Int32.ofNat (32 * min long 16))
  let signals := signals.push 110
  let guess (set : Nat) : Int32 := weighed r.weights signals (signalCount * set) signalCount 0 >>> 16
  let guesses := [bits, 256 + last, 512 + within].map fun set => (signalCount * set, guess set)
  let sum := guesses.foldl (fun sum (_, d) => sum + d) 0
  let (one, r) := r.take (max 16 (min 65520 (probability (sum / 3)).toNatClampNeg))
  let came : Int32 := if one then 65536 else 0
  let { code, place, value, range, slots, weights, trust } := r
  let weights := guesses.foldl
    (fun weights (start, d) => adjusted signals start (came - probability d) signalCount weights) weights
  let trust := if hit then
      trust.modify long fun t => if (sign == 1) == one then t + (65535 - t) / 32 else t - t / 32
    else trust
  let slots := found.foldl (fun slots k => slots.set! k (afterBit slots[k]! one)) slots
  return (one, { code, place, value, range, slots, weights, trust })

end Reader

/-- The text with the given number of bytes that has a code. -/
def read (size : Nat) (code : String) : String := Id.run do
  let mut reader : Reader := { code := digitValues code }
  let mut places : Array Nat := Array.replicate (1 <<< 18) 0
  let mut text := ByteArray.emptyWithCapacity size
  let mut standing : Standing := {}
  let mut source := 0
  let mut length := 0
  for _ in [0:size] do
    let contexts := standing.contexts text
    let last := (standing.recent &&& 0xFF).toNat
    let within := standing.within text
    let expected := if source = 0 then 0 else (text.get! source).toNat + 256
    let mut bits := 1
    for b in [1:9] do
      let (one, next) := reader.bit contexts last within expected (min length 31) b bits
      reader := next
      bits := bits * 2 + if one then 1 else 0
    text := text.push (bits - 256).toUInt8
    standing := standing.after text (bits.toUInt64 - 256)
    length := if expected == bits then length + 1 else 0
    source := if expected == bits then source + 1 else places[standing.key]!
    places := places.set! standing.key text.size
  return (String.fromUTF8? text).getD ""

/-- The rows of a table, one a line: the name and the cells after it, with colons between them. -/
def readTable (text : String) : List (String × List String) :=
  (text.splitOn "\n").map fun line => ((line.splitOn ":").headD "", (line.splitOn ":").tail)

end Geoscript.Text.Coded
