import DetectorSim.Random.Keystream
import DetectorSim.Random.Layers

/-!
Random draws from the words of a keystream: integers, numbers of the unit
interval, integers below a bound, and normally distributed numbers. A draw by
rejection tries words until one is accepted.
-/

namespace DetectorSim.Random

/-- An engine: the current block of a keystream and the place of the next word in it. -/
structure Engine where
  key : Key
  number : UInt64
  words : Block
  offset : Fin 16

namespace Engine

/-- The engine of a seed, at the first word. -/
def ofSeed (seed : UInt64) : Engine :=
  let key := keyOfSeed seed
  ⟨key, 0, block key 0, ⟨0, by decide⟩⟩

/-- The next word. -/
def word (e : Engine) : UInt32 × Engine :=
  (e.words[e.offset],
    if last : e.offset.val = 15 then
      ⟨e.key, e.number + 1, block e.key (e.number + 1), ⟨0, by decide⟩⟩
    else { e with offset := ⟨e.offset.val + 1, by omega⟩ })

/-- Two words as one, the lower half first. -/
def double (e : Engine) : UInt64 × Engine :=
  let (low, e) := e.word
  let (high, e) := e.word
  (high.toUInt64 <<< 32 ||| low.toUInt64, e)

/-- A multiple of `2 ^ -53` in the unit interval, below one. -/
def unit (e : Engine) : Float × Engine :=
  let (bits, e) := e.double
  ((bits >>> 11).toFloat * Float.ofBits 0x3ca0000000000000, e)

/-- A number strictly inside the unit interval. -/
def openUnit (e : Engine) : Float × Engine :=
  let (bits, e) := e.double
  (Float.ofBits ((bits >>> 12) ||| 0x3ff0000000000000) - Float.ofBits 0x3fefffffffffffff, e)

/-- The number of words after which a keystream repeats, so a search of this length has tried
everything. -/
def period : Nat := Nat.pow 2 68

/-- Tries until an attempt is accepted. -/
def search {σ α : Type} (attempt : σ → Option α × σ) : Nat → σ → Option α × σ
  | 0, s => (none, s)
  | tries + 1, s =>
    match attempt s with
    | (some a, s) => (some a, s)
    | (none, s) => search attempt tries s

/-- The number of zero bits above the highest one of a word. -/
def leadingZeros (w : UInt32) : UInt32 :=
  if w = 0 then 32 else 31 - w.log2

/-- An integer from `low` on and below `high`; an empty range has none. Words whose product with
the width falls into the last, incomplete share of all words are rejected. -/
def between (low high : UInt32) (e : Engine) : Option UInt32 × Engine :=
  if low < high then
    let width := high - low
    let zone := (width <<< leadingZeros width) - 1
    let (share, e) := search (fun e =>
      let (w, e) := e.word
      let product := w.toUInt64 * width.toUInt64
      (if product.toUInt32 ≤ zone then some (product >>> 32).toUInt32 else none, e)) period e
    (some (low + share.getD 0), e)
  else (none, e)

/-- The edge of the widest layer, where the tail begins. -/
def tailEdge : Float := layerEdge 1

/-- A number of the tail beyond the widest layer, with the sign of `u`. -/
def tail (u : Float) (e : Engine) : Float × Engine :=
  let (found, e) := search (fun e =>
    let (a, e) := openUnit e
    let (b, e) := openUnit e
    let x := a.log / tailEdge
    let y := b.log
    (if -2.0 * y < x * x then none else some x, e)) period e
  let x := found.getD 0.0
  (if u < 0.0 then x - tailEdge else tailEdge - x, e)

/-- The density `exp (-x * x / 2)`. -/
def density (x : Float) : Float :=
  (-x * x / 2.0).exp

/-- A standard normal number: a layer by eight bits, a place in it by the upper bits. Inside the
next narrower layer the place is accepted at once, else by the density. -/
def standardNormal (e : Engine) : Float × Engine :=
  let (found, e) := search (fun e =>
    let (bits, e) := e.double
    let layer := bits.toNat % 256
    let u := Float.ofBits ((bits >>> 12) ||| 0x4000000000000000) - 3.0
    let x := u * layerEdge layer
    if x.abs < layerEdge (layer + 1) then (some x, e)
    else if layer = 0 then
      let (x, e) := tail u e
      (some x, e)
    else
      let (share, e) := e.unit
      let inner := layerDensity (layer + 1)
      let level := inner + (layerDensity layer - inner) * share
      (if level < density x then some x else none, e)) period e
  (found.getD 0.0, e)

end Engine

/-- The kinds of draws. -/
inductive Draw where
  | word
  | double
  | unit
  | between (low high : UInt32)
  | normal (mean deviation : Float)

/-- What a draw yields; an empty range yields nothing. -/
def Draw.Result : Draw → Type
  | .word => UInt32
  | .double => UInt64
  | .unit => Float
  | .between .. => Option UInt32
  | .normal .. => Float

/-- Draws from an engine. -/
def Draw.from (e : Engine) : (d : Draw) → d.Result × Engine
  | .word => e.word
  | .double => e.double
  | .unit => e.unit
  | .between low high => e.between low high
  | .normal mean deviation =>
    let (z, e) := e.standardNormal
    (mean + deviation * z, e)

end DetectorSim.Random
