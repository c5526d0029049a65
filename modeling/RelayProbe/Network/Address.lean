import RelayProbe.Digits

set_option autoImplicit false

/-! # Addresses

An endpoint is an IPv4 address with a port. It is written strictly (four decimal numbers without
leading zeros, a colon, the port) wherever a text is to be an address and nothing else. A host may
also be given by numbers in a looser way: by one to four numbers, decimal, octal behind a `0` or
hexadecimal behind a `0x`, of which the last fills all the bytes that are left.
-/

namespace RelayProbe

/-- An IPv4 address, by its four bytes read as one number. -/
structure IPv4 where
  value : UInt32
  deriving DecidableEq, Repr

namespace IPv4

/-- The address with the given bytes. -/
def ofBytes (a b c d : Nat) : IPv4 := ⟨UInt32.ofNat (((a * 256 + b) * 256 + c) * 256 + d)⟩

/-- The address of this machine to itself, `127.0.0.1`. -/
def loopback : IPv4 := ofBytes 127 0 0 1

/-- The `i`-th byte of an address, from the left. -/
def byte (a : IPv4) (i : Nat) : Nat := a.value.toNat / Nat.pow 256 (3 - i) % 256

instance : ToString IPv4 where
  toString a := s!"{a.byte 0}.{a.byte 1}.{a.byte 2}.{a.byte 3}"

end IPv4

/-- An address with a port. -/
structure Endpoint where
  address : IPv4
  port : UInt16
  deriving DecidableEq, Repr

instance : ToString Endpoint where
  toString e := s!"{e.address}:{e.port}"

namespace Network

/-! ## Reading addresses -/

/-- The pieces of a text between the occurrences of a character. -/
def pieces (sep : Char) (cs : List Char) : List (List Char) := cs.splitOn sep

/-- A byte in decimal, without leading zeros. -/
def decimalByte? (cs : List Char) : Option Nat := do
  if cs.length > 1 ∧ cs.head? = some '0' then none
  let n ← Digits.number? 10 cs
  if n < 256 then some n else none

/-- The address that is written as four decimal bytes. -/
def strictAddress? (cs : List Char) : Option IPv4 :=
  match pieces '.' cs with
  | [a, b, c, d] => do
      return IPv4.ofBytes (← decimalByte? a) (← decimalByte? b) (← decimalByte? c) (← decimalByte? d)
  | _ => none

/-- A port of decimal digits; leading zeros are allowed. -/
def digitsPort? (cs : List Char) : Option UInt16 := do
  let n ← Digits.number? 10 cs
  if n < 65536 then some (UInt16.ofNat n) else none

/-- A port of decimal digits behind an optional plus sign. -/
def port? : List Char → Option UInt16
  | '+' :: cs => digitsPort? cs
  | cs => digitsPort? cs

/-- A number in decimal, in octal behind a `0`, or in hexadecimal behind a `0x`. -/
def looseNumber? : List Char → Option Nat
  | '0' :: 'x' :: cs => Digits.number? 16 cs
  | '0' :: 'X' :: cs => Digits.number? 16 cs
  | '0' :: cs => Digits.number? 8 ('0' :: cs)
  | cs => Digits.number? 10 cs

/-- The number of the bytes in `ns`, of which all but the last are single bytes and the last fills
the `left` bytes that are left. -/
def fill? (left : Nat) : List Nat → Option Nat
  | [] => none
  | [n] => if n < Nat.pow 256 left then some n else none
  | n :: ns => do
      if left ≤ 1 ∨ 256 ≤ n then none
      return n * Nat.pow 256 (left - 1) + (← fill? (left - 1) ns)

/-- The address that a host's numbers stand for. -/
def looseAddress? (cs : List Char) : Option IPv4 := do
  let ns ← (pieces '.' cs).mapM looseNumber?
  return ⟨UInt32.ofNat (← fill? 4 ns)⟩

/-- A text cut at the last occurrence of a character. -/
def cutAtLast (sep : Char) (cs : List Char) : Option (List Char × List Char) :=
  let tail := cs.reverse.takeWhile (· ≠ sep)
  match cs.reverse.drop tail.length with
  | [] => none
  | _ :: front => some (front.reverse, tail.reverse)

/-- The endpoint that is written as a strict address, a colon and a port. -/
def endpoint? (cs : List Char) : Option Endpoint := do
  let (host, port) ← cutAtLast ':' cs
  return ⟨← strictAddress? host, ← digitsPort? port⟩

end Network

end RelayProbe
