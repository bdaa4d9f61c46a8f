set_option autoImplicit false

namespace Reckoner.Utf8

inductive Reason where
  | invalidStart
  | invalidContinuation
  | unexpectedEnd
deriving DecidableEq

def Reason.text : Reason → String
  | invalidStart => "invalid start byte"
  | invalidContinuation => "invalid continuation byte"
  | unexpectedEnd => "unexpected end of data"

structure Fault where
  position : Nat
  length : Nat
  byte : UInt8
  reason : Reason
deriving DecidableEq

def hexByte (b : UInt8) : String :=
  let digits := Nat.toDigits 16 b.toNat
  String.ofList (List.replicate (2 - digits.length) '0' ++ digits)

def Fault.message (f : Fault) : String :=
  let bytes :=
    if f.length = 1 then "byte 0x" ++ hexByte f.byte ++ " in position " ++ toString f.position
    else "bytes in position " ++ toString f.position ++ "-" ++ toString (f.position + f.length - 1)
  "'utf-8' codec can't decode " ++ bytes ++ ": " ++ f.reason.text

def isContinuation (b : UInt8) : Bool := 0x80 ≤ b && b ≤ 0xbf

def isSecond (first second : UInt8) : Bool :=
  isContinuation second &&
    (first != 0xe0 || 0xa0 ≤ second) && (first != 0xed || second ≤ 0x9f) &&
    (first != 0xf0 || 0x90 ≤ second) && (first != 0xf4 || second ≤ 0x8f)

def lengthFrom (first : UInt8) : Option Nat :=
  if first < 0x80 then some 1
  else if first < 0xc2 then none
  else if first < 0xe0 then some 2
  else if first < 0xf0 then some 3
  else if first < 0xf5 then some 4
  else none

def continued (first : UInt8) (count : Nat) : List UInt8 → Nat
  | [] => 0
  | second :: rest =>
    if count = 0 || !isSecond first second then 0
    else 1 + ((rest.take (count - 1)).takeWhile isContinuation).length

def firstFault (position : Nat) : (fuel : Nat) → List UInt8 → Option Fault
  | 0, _ => none
  | _, [] => none
  | fuel + 1, first :: rest =>
    match lengthFrom first with
    | none => some ⟨position, 1, first, .invalidStart⟩
    | some length =>
      let good := continued first (length - 1) rest
      if good = length - 1 then firstFault (position + length) fuel (rest.drop good)
      else if good = rest.length then some ⟨position, good + 1, first, .unexpectedEnd⟩
      else some ⟨position, good + 1, first, .invalidContinuation⟩

def decode (bytes : ByteArray) : Except Fault String :=
  match String.fromUTF8? bytes with
  | some text => .ok text
  | none =>
    match firstFault 0 bytes.size bytes.toList with
    | some fault => .error fault
    | none => .error ⟨bytes.size, 0, 0, .unexpectedEnd⟩

end Reckoner.Utf8
