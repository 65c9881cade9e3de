import P2pStun.UdpSocket
import Mathlib.Data.Rat.Floor
import Mathlib.Logic.Function.Basic

/-! The port manager, one whole call after another, and the binding of a socket to
a port it assigns. Ports and their counters are 16 bits wide and wrap. The floating point
of the machine is a parameter. -/
namespace P2pStun

/-- The floating point operations the program uses, whatever their rounding and
whatever a conversion out of range gives. -/
structure FloatUnit where
  Float : Type
  ofNat : Nat → Float
  add : Float → Float → Float
  sub : Float → Float → Float
  mul : Float → Float → Float
  div : Float → Float → Float
  positive : Float → Bool
  toUInt16 : Float → UInt16

/-- Exact arithmetic, with truncation towards zero and reduction modulo the width. -/
def FloatUnit.exact : FloatUnit where
  Float := ℚ
  ofNat n := n
  add := (· + ·)
  sub := (· - ·)
  mul := (· * ·)
  div := (· / ·)
  positive x := decide (0 < x)
  toUInt16 x := .ofInt (x.num.tdiv x.den)

structure PortData where
  currentPort : UInt16
  timestampMs : UInt64
deriving DecidableEq

structure PortManager where
  portResPortMap : UInt16 → Option PortData
  currentPort : UInt16
  simulatedNormalAllocsPerSecond : UInt16
  reservedPortRangePerAlloc : UInt16
  minPort : UInt16

/-- What one call draws from outside: the clock, the generator and the answer of `bind`. -/
structure Draw (fpu : FloatUnit) where
  now : UInt64
  rndVal : fpu.Float
  bindOk : Bool

namespace PortManager

variable {fpu : FloatUnit}

def simulatedOffset (p : PortManager) (old : UInt64) (d : Draw fpu) : UInt16 :=
  if p.simulatedNormalAllocsPerSecond ≠ 0 then
    let rndVal := if fpu.positive d.rndVal then d.rndVal else fpu.ofNat 0
    let tdiff := fpu.div (fpu.ofNat (d.now - old).toNat) (fpu.ofNat 1000)
    let moved := fpu.mul (fpu.mul tdiff (fpu.ofNat p.simulatedNormalAllocsPerSecond.toNat)) rndVal
    fpu.toUInt16 (fpu.add moved (fpu.div (fpu.ofNat 1) (fpu.ofNat 2)))
  else 0

def assignNextFromBase (p : PortManager) (basePort : UInt16) (d : Draw fpu) :
    PortManager × UInt16 :=
  match p.portResPortMap basePort with
  | none => (p,0)
  | some data =>
    let offset := p.simulatedOffset data.timestampMs d
    let timestampMs := if p.simulatedNormalAllocsPerSecond ≠ 0 then d.now else data.timestampMs
    let port := data.currentPort + offset
    let entry : PortData := ⟨data.currentPort + (offset + 1),timestampMs⟩
    ({p with portResPortMap := Function.update p.portResPortMap basePort (some entry)},
      if port < p.minPort then port + p.minPort else port)

def assignNext (p : PortManager) (d : Draw fpu) : PortManager × UInt16 :=
  let (current,myPort) :=
    if p.currentPort < p.minPort then
      -- the counter has wrapped; the first addition is made before the test
      let current := p.currentPort + p.reservedPortRangePerAlloc
      let current := if current < p.minPort then p.minPort else current
      (current + p.reservedPortRangePerAlloc,current)
    else (p.currentPort + p.reservedPortRangePerAlloc,p.currentPort)
  let entry : PortData := match p.portResPortMap myPort with
    | none => ⟨myPort + 1,d.now⟩
    | some data => ⟨myPort + 1,data.timestampMs⟩
  ({p with
      portResPortMap := Function.update p.portResPortMap myPort (some entry)
      currentPort := current},myPort)

def setSimulatedAllocsPerSecond (p : PortManager) (allocPerSec : UInt16) : PortManager :=
  {p with simulatedNormalAllocsPerSecond := allocPerSec}

def setReservedPortRangePerAlloc (p : PortManager) (reservedRange : UInt16) : PortManager :=
  {p with reservedPortRangePerAlloc := reservedRange}

end PortManager

variable {fpu : FloatUnit}

/-- Zero is returned for a failure, also when the assigned port is zero. -/
def UdpSocket.bindByPortman (s : UdpSocket) (portman : PortManager) (basePort : UInt16)
    (d : Draw fpu) : PortManager × UInt16 :=
  if ¬s.initialized then (portman,0)
  else
    let (portman,port) :=
      if basePort ≠ 0 then portman.assignNextFromBase basePort d else portman.assignNext d
    (portman,if d.bindOk then port else 0)

end P2pStun
