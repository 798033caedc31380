import BoxedDeduction.Number.Fraction

/-!
# Numbers in slots

Numbers can be listed by slots instead of in the order in which they come. Each
number has a home among the slots, which depends on its remainder by a large
prime. A number whose home is taken goes to the first free slot of a few behind
it, and if there is none, to another home.
-/

namespace BoxedDeduction.Slots

/-- The exponent of the prime. -/
def exponent : Nat := 61

/-- The prime by which remainders are taken, one below a power of two. -/
def prime : Nat := Nat.pow 2 exponent - 1

/-- The number of whole codes. -/
def codeRange : Nat := Nat.pow 2 64

/-- The code of a remainder with a sign. Minus one is not in use; minus two stands in for it. -/
def signed (negative : Bool) (remainder : Nat) : Nat :=
  if !negative || remainder = 0 then remainder else codeRange - max remainder 2

/-- The code of a number, given as a numerator and a power of two below it. -/
def codeOf (negative : Bool) (numerator places : Nat) : Nat :=
  let scale := Nat.pow 2 ((exponent - places % exponent) % exponent)
  signed negative (numerator * scale % prime)

/-- The remainder that stands for what lies beyond all numbers. -/
def infiniteRemainder : Nat := 314159

/-- The code of a fraction, if it is defined. -/
def codeOfFraction? : Fraction → Option Nat
  | .finite number =>
    let (numerator, _) := number.size
    some (codeOf number.negative numerator (-number.power).toNat)
  | .infinite negative => some (signed negative infiniteRemainder)
  | .undefined => none

/-- How many slots behind a home are tried. -/
def tries : Nat := 9

/-- The number of slots for a count of members. -/
def slotCount (count : Nat) : Nat :=
  if count < 5 then 8 else Nat.pow 2 (Nat.log2 (2 * count) + 1)

/-- A free slot for a code. The last slots have no others behind them that are tried. -/
def freeSlot {α : Type} (slots : Array (Option α)) : Nat → Nat → Nat → Option Nat
  | 0, _, _ => none
  | fuel + 1, home, code =>
    let behind := if home + tries < slots.size then tries else 0
    let free := (List.range' home (behind + 1)).find? fun slot => (slots[slot]?.join).isNone
    match free with
    | some slot => some slot
    | none =>
      let other := code / 32
      freeSlot slots fuel ((5 * home + 1 + other) % slots.size) other

/-- Put a member into a free slot. -/
def insert {α : Type} (slots : Array (Option α)) (member : α × Nat) : Array (Option α) :=
  let home := member.2 % slots.size
  match freeSlot slots (slots.size + exponent) home member.2 with
  | some slot => slots.setIfInBounds slot (some member.1)
  | none => slots

/-- Members with codes in the order of their slots. -/
def arrange {α : Type} (members : List (α × Nat)) : List α :=
  let empty : Array (Option α) := Array.replicate (slotCount members.length) none
  ((members.foldl insert empty).toList).filterMap id

end BoxedDeduction.Slots
