import P2pStun.Messages
import P2pStun.Runs

/-! The client's socket and the connection around it. The kernel's answers are
inputs: what a `recvfrom` finds, and whether a `sendto` succeeds. -/
namespace P2pStun
open ByteLayout Runs

/-- `address_t`, in host byte order. -/
structure Address where
  ip : UInt32
  port : UInt16
deriving DecidableEq

def Address.endpoint (a : Address) : Endpoint := ⟨htonl a.ip,htons a.port⟩

def Address.sockaddr (a : Address) : SockaddrIn := a.endpoint.sockaddr

/-- A datagram taken by `recvfrom`. `len` is the address length handed to it, which is never
initialised: so many bytes of the sender's address are let through. -/
structure Incoming where
  payload : Payload
  source : Endpoint
  len : Nat
  fits : len < 2 ^ 31
deriving DecidableEq

/-- The kernel reads the address length as an `int`. Where that is negative the call fails,
with the datagram taken and the caller's buffer written to but not the address. -/
def recvfrom (payload : Payload) (source : Endpoint) (len : Nat) : Except Payload Incoming :=
  if fits : len < 2 ^ 31 then .ok ⟨payload,source,len,fits⟩ else .error payload

theorem recvfrom_ok {payload : Payload} {source : Endpoint} {len : Nat} (fits : len < 2 ^ 31) :
    recvfrom payload source len = .ok ⟨payload,source,len,fits⟩ := dif_pos fits

theorem recvfrom_error {payload : Payload} {source : Endpoint} {len : Nat} (refused : ¬len < 2 ^ 31) :
    recvfrom payload source len = .error payload := dif_neg refused

theorem recvfrom_taken {payload : Payload} {source : Endpoint} {len : Nat} {d : Incoming}
    (taken : recvfrom payload source len = .ok d) :
    d.payload = payload ∧ d.source = source ∧ d.len = len := by
  rw [recvfrom] at taken
  split at taken
  · cases taken
    exact ⟨rfl,rfl,rfl⟩
  · contradiction

theorem sizeof_fits : 16 < 2 ^ 31 := by decide

def Incoming.whole (payload : Payload) (source : Endpoint) : Incoming := ⟨payload,source,16,sizeof_fits⟩

/-- With such an address length `recvfrom` succeeds and reports the whole sender. -/
def ReportsWhole (len : Nat) : Prop := 16 ≤ len ∧ len < 2 ^ 31

instance (len : Nat) : Decidable (ReportsWhole len) := inferInstanceAs (Decidable (_ ∧ _))

/-- `written` is what a call that fails has written to the buffer before. -/
inductive RecvOutcome
  | timeout | error (written : Payload) | datagram (d : Incoming)
deriving DecidableEq

def RecvOutcome.of : Except Payload Incoming → RecvOutcome
  | .ok d => .datagram d
  | .error written => .error written

structure Outgoing where
  handle : Int
  dest : SockaddrIn
  payload : Payload
deriving DecidableEq

structure UdpSocket where
  initialized : Bool
  targetAddress : SockaddrIn
  peerAddress : SockaddrIn
  socketHandle : Int
deriving DecidableEq

namespace UdpSocket

def create : UdpSocket := ⟨false,.zero,.zero,0⟩

/-- `fd` is the answer of `socket`, none when it fails. -/
def init (s : UdpSocket) (fd : Option Int) : UdpSocket × Bool :=
  if s.initialized then (s,true)
  else match fd with
    | none => ({s with socketHandle := -1},false)
    | some fd => ({s with socketHandle := fd, initialized := true},true)

theorem init_create_none : create.init none = (⟨false,.zero,.zero,-1⟩,false) := rfl

theorem init_create_some (fd : Int) : create.init (some fd) = (⟨true,.zero,.zero,fd⟩,true) := rfl

def send (s : UdpSocket) (buffer : Payload) (ok : Bool) : Bool × List Outgoing :=
  if ok then (true,[⟨s.socketHandle,s.targetAddress,buffer⟩]) else (false,[])

def fromAddress (old : SockaddrIn) (d : Incoming) : SockaddrIn :=
  partly SockaddrIn.layout old d.source.sockaddr d.len

def receive (s : UdpSocket) (maxSize : Nat) : Except Payload Incoming → UdpSocket × Int × Payload
  | .error written => (s,-1,written.take maxSize)
  | .ok d => ({s with targetAddress := fromAddress s.targetAddress d},
      min d.payload.length maxSize,d.payload.take maxSize)

def waitReceive (s : UdpSocket) (maxSize : Nat) : RecvOutcome → UdpSocket × Int × Payload
  | .timeout => (s,0,[])
  | .error written => (s,-1,written.take maxSize)
  | .datagram d => ({s with peerAddress := fromAddress s.peerAddress d},
      min d.payload.length maxSize,d.payload.take maxSize)

def setTargetAddress (s : UdpSocket) (targetAddress : SockaddrIn) : UdpSocket :=
  {s with targetAddress := targetAddress}

end UdpSocket

structure UdpConnection where
  socket : UdpSocket

namespace UdpConnection

inductive Call
  | send (buffer : Payload) (ok : Bool)
  | receive (maxSize : Nat) (found : Except Payload Incoming)
  | waitReceive (maxSize : Nat) (found : RecvOutcome)

/-- What the calls do with the socket and send; what they return is left to the caller. -/
def call : Machine UdpConnection Call Outgoing := fun c e =>
  match e with
  | .send buffer ok => (c,(c.socket.send buffer ok).2)
  | .receive maxSize found => (⟨(c.socket.receive maxSize found).1⟩,[])
  | .waitReceive maxSize found => (⟨(c.socket.waitReceive maxSize found).1⟩,[])

end UdpConnection

inductive ConnectResult
  | invalid | connectionFailedNoServerMatchInTime | connectionSuccessful
  | connectionFailed | connectionError
deriving DecidableEq

end P2pStun
