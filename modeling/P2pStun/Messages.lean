import P2pStun.ByteLayout

/-! The wire format shared by the server and the clients: `sockaddr_in`,
`message_t` and the byte order of its fields. Every message is kept as the bytes
of the object, since both sides reuse one buffer for sending and receiving. -/
namespace P2pStun
open ByteLayout

def htonl (x : UInt32) : UInt32 := swapped uint32 x
def ntohl (x : UInt32) : UInt32 := swapped uint32 x
def htons (x : UInt16) : UInt16 := swapped uint16 x
def ntohs (x : UInt16) : UInt16 := swapped uint16 x

@[simp] theorem ntohl_htonl (x : UInt32) : ntohl (htonl x) = x := swapped_swapped _ x
@[simp] theorem htonl_ntohl (x : UInt32) : htonl (ntohl x) = x := swapped_swapped _ x

/-- Port and address are kept as stored, in network byte order. -/
structure SockaddrIn where
  sinFamily : UInt16
  sinPort : UInt16
  sinAddr : UInt32
  sinZero : Bytes 8

namespace SockaddrIn

instance : DecidableEq SockaddrIn := fun a b =>
  decidable_of_iff (a.sinFamily = b.sinFamily ∧ a.sinPort = b.sinPort ∧ a.sinAddr = b.sinAddr ∧
    a.sinZero = b.sinZero) (by cases a; cases b; simp)

def zero : SockaddrIn := ⟨0,0,0,fun _ => 0⟩

def layout : SockaddrIn ≃ Bytes 16 :=
  Equiv.trans
    ⟨fun a => (((a.sinFamily,a.sinPort),a.sinAddr),a.sinZero),fun t => ⟨t.1.1.1,t.1.1.2,t.1.2,t.2⟩,
      fun _ => rfl,fun _ => rfl⟩
    (fields (fields (fields uint16 uint16) uint32) (Equiv.refl (Bytes 8)))

end SockaddrIn

structure Endpoint where
  addr : UInt32
  port : UInt16
deriving DecidableEq

namespace Endpoint

def afInet : UInt16 := 2

def sockaddr (e : Endpoint) : SockaddrIn := ⟨afInet,e.port,e.addr,fun _ => 0⟩

@[simp] theorem sockaddr_sinAddr (e : Endpoint) : e.sockaddr.sinAddr = e.addr := rfl
@[simp] theorem sockaddr_sinPort (e : Endpoint) : e.sockaddr.sinPort = e.port := rfl

theorem sockaddr_injective : Function.Injective sockaddr := by
  intro a b same
  have addr : a.addr = b.addr := congrArg SockaddrIn.sinAddr same
  have port : a.port = b.port := congrArg SockaddrIn.sinPort same
  cases a; cases b
  simp_all

theorem sockaddr_ne_zero (e : Endpoint) : e.sockaddr ≠ SockaddrIn.zero := by
  intro same
  have family : afInet = 0 := congrArg SockaddrIn.sinFamily same
  exact absurd family (by decide)

end Endpoint

def SockaddrIn.endpoint (a : SockaddrIn) : Endpoint := ⟨a.sinAddr,a.sinPort⟩

@[simp] theorem Endpoint.sockaddr_endpoint (e : Endpoint) : e.sockaddr.endpoint = e := rfl

inductive MessageType
  | bindRequest | bindReply | psBindRequest | psBindReply
  | clientBindRequest | clientBindResponse | ack | heartbeat
deriving DecidableEq

namespace MessageType

def code : MessageType → UInt8
  | bindRequest => 0
  | bindReply => 1
  | psBindRequest => 2
  | psBindReply => 3
  | clientBindRequest => 4
  | clientBindResponse => 5
  | ack => 6
  | heartbeat => 7

/-- The enumerator with a value, none for the other 248 values of the byte. -/
def ofCode (c : UInt8) : Option MessageType :=
  [bindRequest,bindReply,psBindRequest,psBindReply,clientBindRequest,clientBindResponse,ack,heartbeat].find?
    (fun t => t.code == c)

@[simp] theorem ofCode_code (t : MessageType) : ofCode t.code = some t := by
  cases t <;> rfl

end MessageType

structure PsBindReply where
  addrOne : SockaddrIn
  addrTwo : SockaddrIn
  t1 : UInt64
  t2 : UInt64
deriving DecidableEq

def PsBindReply.layout : PsBindReply ≃ Bytes 48 :=
  Equiv.trans
    ⟨fun r => (((r.addrOne,r.addrTwo),r.t1),r.t2),fun t => ⟨t.1.1.1,t.1.1.2,t.1.2,t.2⟩,
      fun _ => rfl,fun _ => rfl⟩
    (fields (fields (fields SockaddrIn.layout SockaddrIn.layout) uint64) uint64)

/-- The bytes of a `message_t`: the type in the first one, the union from the
eighth on. The union members share its first bytes. -/
abbrev Message := Bytes 56

namespace Message

def zero : Message := fun _ => 0

def type (m : Message) : Option MessageType := MessageType.ofCode (m 0)

def setType (m : Message) (t : MessageType) : Message := splice m 0 (fun _ : Fin 1 => t.code)

def transactionId (m : Message) : UInt32 := uint32.symm (slice m 8 4)

def setTransactionId (m : Message) (id : UInt32) : Message := splice m 8 (uint32 id)

def bindReply (m : Message) : SockaddrIn := SockaddrIn.layout.symm (slice m 8 16)

def setBindReply (m : Message) (a : SockaddrIn) : Message := splice m 8 (SockaddrIn.layout a)

def psBindReply (m : Message) : PsBindReply := PsBindReply.layout.symm (slice m 8 48)

def setPsBindReply (m : Message) (r : PsBindReply) : Message := splice m 8 (PsBindReply.layout r)

@[simp] theorem type_setType (m : Message) (t : MessageType) : (m.setType t).type = some t := by
  simp [type,setType,splice]

@[simp] theorem transactionId_setTransactionId (m : Message) (id : UInt32) :
    (m.setTransactionId id).transactionId = id := by
  simp [transactionId,setTransactionId]

@[simp] theorem bindReply_setBindReply (m : Message) (a : SockaddrIn) :
    (m.setBindReply a).bindReply = a := by
  simp [bindReply,setBindReply]

@[simp] theorem psBindReply_setPsBindReply (m : Message) (r : PsBindReply) :
    (m.setPsBindReply r).psBindReply = r := by
  simp [psBindReply,setPsBindReply]

@[simp] theorem type_setTransactionId (m : Message) (id : UInt32) :
    (m.setTransactionId id).type = m.type := by
  rw [type,setTransactionId,splice_outside _ _ _ _ (by simp)]
  rfl

@[simp] theorem type_setBindReply (m : Message) (a : SockaddrIn) :
    (m.setBindReply a).type = m.type := by
  rw [type,setBindReply,splice_outside _ _ _ _ (by simp)]
  rfl

@[simp] theorem type_setPsBindReply (m : Message) (r : PsBindReply) :
    (m.setPsBindReply r).type = m.type := by
  rw [type,setPsBindReply,splice_outside _ _ _ _ (by simp)]
  rfl

@[simp] theorem transactionId_setType (m : Message) (t : MessageType) :
    (m.setType t).transactionId = m.transactionId := by
  rw [transactionId,setType,slice_splice_disjoint _ _ _ _ _ _ (by omega)]
  rfl

@[simp] theorem transactionId_zero : zero.transactionId = 0 := by decide

@[simp] theorem ntohl_zero : ntohl 0 = 0 := by decide

def request (m : Message) (t : MessageType) (id : UInt32) : Message :=
  (m.setType t).setTransactionId (htonl id)

@[simp] theorem type_request (m : Message) (t : MessageType) (id : UInt32) :
    (m.request t id).type = some t := by
  simp [request]

@[simp] theorem transactionId_request (m : Message) (t : MessageType) (id : UInt32) :
    ntohl (m.request t id).transactionId = id := by
  simp [request]

end Message

abbrev Payload := List UInt8

namespace Payload

def ofMessage (m : Message) : Payload := List.ofFn m

def type (p : Payload) : Option MessageType := p.head?.bind MessageType.ofCode

def transactionId (p : Payload) : Option UInt32 :=
  if 12 ≤ p.length then some (ntohl (Message.transactionId (overwrite Message.zero p))) else none

end Payload

def Message.received (m : Message) (p : Payload) : Message := overwrite m p

@[simp] theorem Message.received_ofMessage (m sent : Message) :
    m.received (Payload.ofMessage sent) = sent := overwrite_ofFn m sent

@[simp] theorem Message.received_nil (m : Message) : m.received [] = m := rfl

@[simp] theorem Message.received_take (m : Message) (p : Payload) :
    m.received (p.take 56) = m.received p := overwrite_take m p

theorem Message.type_received (m : Message) (p : Payload) (nonempty : p ≠ []) :
    (m.received p).type = p.type := by
  cases p with
  | nil => exact absurd rfl nonempty
  | cons b rest =>
    rw [Message.type,received,overwrite_getElem m _ 0 (by simp)]
    rfl

theorem Payload.ofMessage_injective : Function.Injective Payload.ofMessage := by
  intro a b same
  rw [← Message.received_ofMessage a a,same,Message.received_ofMessage]

@[simp] theorem Payload.type_ofMessage (m : Message) : (Payload.ofMessage m).type = m.type := by
  have nonempty : ofMessage m ≠ [] := by simp [ofMessage]
  rw [← Message.type_received m _ nonempty,Message.received_ofMessage]

@[simp] theorem Payload.transactionId_ofMessage (m : Message) :
    (Payload.ofMessage m).transactionId = some (ntohl m.transactionId) := by
  have long : 12 ≤ (ofMessage m).length := by simp [ofMessage]
  have read : overwrite Message.zero (ofMessage m) = m := Message.received_ofMessage Message.zero m
  rw [transactionId,if_pos long,read]

theorem Message.transactionId_received (m : Message) (p : Payload) (id : UInt32)
    (own : p.transactionId = some id) : ntohl (m.received p).transactionId = id := by
  unfold Payload.transactionId at own
  split at own
  · rename_i long
    rw [← Option.some.inj own,Message.transactionId,Message.transactionId,received,
      slice_overwrite m Message.zero p 8 4 (by decide) (by omega)]
  · contradiction

end P2pStun
