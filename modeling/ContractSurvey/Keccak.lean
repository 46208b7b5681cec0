/-
The Keccak-256 digest.

A state is five planes of five 64-bit lanes.  A message is padded with a one bit,
zeros and a last one bit to whole blocks of seventeen lanes, each block is mixed
into the state and followed by the twenty-four rounds of the permutation, and the
digest is the first four lanes.  Lanes are read and written low byte first.
-/

namespace ContractSurvey
namespace Keccak

/-- A 64-bit word of the state. -/
abbrev Lane := UInt64

/-- Five lanes side by side. -/
structure Plane where
  a : Lane
  b : Lane
  c : Lane
  d : Lane
  e : Lane
  deriving DecidableEq

/-- Five planes on top of each other. -/
structure State where
  first : Plane
  second : Plane
  third : Plane
  fourth : Plane
  fifth : Plane
  deriving DecidableEq

def Lane.rotated (lane : Lane) (places : Lane) : Lane :=
  (lane <<< places) ||| (lane >>> (64 - places))

/-- Two planes combined lane by lane. -/
def Plane.combine (operation : Lane → Lane → Lane) (left right : Plane) : Plane :=
  { a := operation left.a right.a
    b := operation left.b right.b
    c := operation left.c right.c
    d := operation left.d right.d
    e := operation left.e right.e }

/-- The exclusive disjunction of two planes. -/
def Plane.xor (left right : Plane) : Plane :=
  combine (· ^^^ ·) left right

/-- Every plane changed in the same way. -/
def State.mapPlanes (change : Plane → Plane) (state : State) : State :=
  { first := change state.first
    second := change state.second
    third := change state.third
    fourth := change state.fourth
    fifth := change state.fifth }

/-- Mixes the parities of the two neighbouring columns into every lane. -/
def State.diffuse (state : State) : State :=
  let parity :=
    (((state.first.xor state.second).xor state.third).xor state.fourth).xor state.fifth
  let effect : Plane :=
    { a := parity.e ^^^ Lane.rotated parity.b 1
      b := parity.a ^^^ Lane.rotated parity.c 1
      c := parity.b ^^^ Lane.rotated parity.d 1
      d := parity.c ^^^ Lane.rotated parity.e 1
      e := parity.d ^^^ Lane.rotated parity.a 1 }
  state.mapPlanes (·.xor effect)

/-- Rotates every lane by its own distance and moves it to its new place. -/
def State.disperse (state : State) : State :=
  { first :=
      { a := state.first.a
        b := Lane.rotated state.second.b 44
        c := Lane.rotated state.third.c 43
        d := Lane.rotated state.fourth.d 21
        e := Lane.rotated state.fifth.e 14 }
    second :=
      { a := Lane.rotated state.first.d 28
        b := Lane.rotated state.second.e 20
        c := Lane.rotated state.third.a 3
        d := Lane.rotated state.fourth.b 45
        e := Lane.rotated state.fifth.c 61 }
    third :=
      { a := Lane.rotated state.first.b 1
        b := Lane.rotated state.second.c 6
        c := Lane.rotated state.third.d 25
        d := Lane.rotated state.fourth.e 8
        e := Lane.rotated state.fifth.a 18 }
    fourth :=
      { a := Lane.rotated state.first.e 27
        b := Lane.rotated state.second.a 36
        c := Lane.rotated state.third.b 10
        d := Lane.rotated state.fourth.c 15
        e := Lane.rotated state.fifth.d 56 }
    fifth :=
      { a := Lane.rotated state.first.c 62
        b := Lane.rotated state.second.d 55
        c := Lane.rotated state.third.e 39
        d := Lane.rotated state.fourth.a 41
        e := Lane.rotated state.fifth.b 2 } }

/-- Combines every lane with its two right neighbours in the plane. -/
def Plane.twist (plane : Plane) : Plane :=
  { a := plane.a ^^^ (~~~plane.b &&& plane.c)
    b := plane.b ^^^ (~~~plane.c &&& plane.d)
    c := plane.c ^^^ (~~~plane.d &&& plane.e)
    d := plane.d ^^^ (~~~plane.e &&& plane.a)
    e := plane.e ^^^ (~~~plane.a &&& plane.b) }

def State.round (state : State) (constant : Lane) : State :=
  let twisted := state.diffuse.disperse.mapPlanes Plane.twist
  { twisted with first := { twisted.first with a := twisted.first.a ^^^ constant } }

def roundConstants : List Lane :=
  [0x0000000000000001, 0x0000000000008082, 0x800000000000808A, 0x8000000080008000,
    0x000000000000808B, 0x0000000080000001, 0x8000000080008081, 0x8000000000008009,
    0x000000000000008A, 0x0000000000000088, 0x0000000080008009, 0x000000008000000A,
    0x000000008000808B, 0x800000000000008B, 0x8000000000008089, 0x8000000000008003,
    0x8000000000008002, 0x8000000000000080, 0x000000000000800A, 0x800000008000000A,
    0x8000000080008081, 0x8000000000008080, 0x0000000080000001, 0x8000000080008008]

def State.permute (state : State) : State :=
  roundConstants.foldl State.round state

/-- The plane of the lanes from a place of a list on; lanes that are missing are
zero. -/
def Plane.ofLanes (lanes : List Lane) : Plane :=
  { a := lanes.getD 0 0
    b := lanes.getD 1 0
    c := lanes.getD 2 0
    d := lanes.getD 3 0
    e := lanes.getD 4 0 }

/-- The state whose planes hold the lanes of a list one after another. -/
def State.ofLanes (lanes : List Lane) : State :=
  { first := Plane.ofLanes lanes
    second := Plane.ofLanes (lanes.drop 5)
    third := Plane.ofLanes (lanes.drop 10)
    fourth := Plane.ofLanes (lanes.drop 15)
    fifth := Plane.ofLanes (lanes.drop 20) }

/-- The exclusive disjunction of two states. -/
def State.xor (left right : State) : State :=
  { first := left.first.xor right.first
    second := left.second.xor right.second
    third := left.third.xor right.third
    fourth := left.fourth.xor right.fourth
    fifth := left.fifth.xor right.fifth }

/-- The lane that bytes spell, low byte first. -/
def laneOf (bytes : List UInt8) : Lane :=
  bytes.foldr (fun byte lane => (lane <<< 8) ||| byte.toUInt64) 0

/-- The bytes of a lane, low byte first. -/
def bytesOf (lane : Lane) : List UInt8 :=
  (List.range 8).map fun place => (lane >>> UInt64.ofNat (8 * place)).toUInt8

/-- The number of bytes in a block. -/
def rate : Nat := 136

def pieces (size count : Nat) (bytes : List UInt8) : List (List UInt8) :=
  match count with
  | 0 => []
  | more + 1 =>
      if bytes = [] then []
      else bytes.take size :: pieces size more (bytes.drop size)

def padded (message : List UInt8) : List UInt8 :=
  let missing := rate - message.length % rate
  if missing = 1 then message ++ [0x81]
  else message ++ 0x01 :: List.replicate (missing - 2) 0x00 ++ [0x80]

def absorb (state : State) (block : List UInt8) : State :=
  (state.xor (State.ofLanes ((pieces 8 17 block).map laneOf))).permute

/-- The thirty-two bytes of the digest of a message. -/
def digest (message : List UInt8) : List UInt8 :=
  let blocks := pieces rate (message.length / rate + 1) (padded message)
  let final := blocks.foldl absorb (State.ofLanes [])
  [final.first.a, final.first.b, final.first.c, final.first.d].flatMap bytesOf

end Keccak
end ContractSurvey
