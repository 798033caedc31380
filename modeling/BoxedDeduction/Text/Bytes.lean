import BoxedDeduction.Text.Quoted
import BoxedDeduction.Text.WholeNumber

/-!
# Bytes in text

Bytes can be written with 64 characters of which each holds six bits, filled up
with equality signs to groups of four. Other characters between them do not
count. Bytes are shown in quotes, with the characters of ASCII as they are and
all others by their codes, and may spell a whole number.
-/

namespace BoxedDeduction.Bytes

/-- The characters that hold six bits, in the order of their values. -/
def alphabet : List Char :=
  "ABCDEFGHIJKLMNOPQRSTUVWXYZabcdefghijklmnopqrstuvwxyz0123456789+/".toList

/-- The six bits that a character holds. -/
def sixBits? (c : Char) : Option Nat := alphabet.idxOf? c

/-- The sign that fills up a group. -/
def filler : Char := '='

/-- Read characters of which the last `held` belong to an open group with `rest` as the bits that
make no byte yet, and behind which `fillers` signs in a row stand. Signs that fill up a group end
the text. An open group at the end makes the text unreadable. -/
def readFrom (held rest fillers : Nat) : List Char → Option (List UInt8)
  | [] => if held = 0 then some [] else none
  | c :: behind =>
    if c = filler then
      if held < 2 then readFrom held rest fillers behind
      else if 4 ≤ held + fillers + 1 then some []
      else readFrom held rest (fillers + 1) behind
    else
      match sixBits? c with
      | none => readFrom held rest fillers behind
      | some bits =>
        let whole := 64 * rest + bits
        match held with
        | 0 => readFrom 1 bits 0 behind
        | 1 => (readFrom 2 (whole % 16) 0 behind).map (UInt8.ofNat (whole / 16) :: ·)
        | 2 => (readFrom 3 (whole % 4) 0 behind).map (UInt8.ofNat (whole / 4) :: ·)
        | _ => (readFrom 0 0 0 behind).map (UInt8.ofNat whole :: ·)

/-- The bytes that characters hold. -/
def read? (cs : List Char) : Option (List UInt8) := readFrom 0 0 0 cs

/-- The character that holds six bits. -/
def letter (bits : Nat) : Char := (alphabet[bits]?).getD filler

/-- Write bytes in groups of four characters. -/
def write : List UInt8 → List Char
  | [] => []
  | [a] =>
    let bits := 16 * a.toNat
    [letter (bits / 64), letter (bits % 64), filler, filler]
  | [a, b] =>
    let bits := 4 * (256 * a.toNat + b.toNat)
    [letter (bits / 4096), letter (bits / 64 % 64), letter (bits % 64), filler]
  | a :: b :: c :: rest =>
    let bits := 65536 * a.toNat + 256 * b.toNat + c.toNat
    letter (bits / 262144) :: letter (bits / 4096 % 64) :: letter (bits / 64 % 64) ::
      letter (bits % 64) :: write rest

/-- The characters of which bytes are the codes. -/
def letters (bytes : List UInt8) : List Char := bytes.map fun b => Char.ofNat b.toNat

/-- Bytes in quotes. -/
def quote (bytes : List UInt8) : String :=
  let cs := letters bytes
  let mark := Quoted.markFor cs
  String.ofList ('b' :: mark :: cs.flatMap (fun c =>
    if c.toNat < 0x80 then Quoted.escape mark c else Quoted.escapeCode c) ++ [mark])

/-- The whole number that bytes spell in ASCII. -/
def whole? (bytes : List UInt8) : Option Int :=
  if bytes.all (· < 0x80) then WholeNumber.read? (String.ofList (letters bytes)) else none

end BoxedDeduction.Bytes
