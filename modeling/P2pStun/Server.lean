import P2pStun.Messages
import P2pStun.Runs
import Mathlib.Logic.Function.Basic

/-! The rendezvous server: one iteration of the receive loop of
`udp_server_t::start`, from the bytes left in the buffer to the datagrams sent.
The two maps are kept as partial functions of the transaction id. -/
namespace P2pStun
open ByteLayout Runs

structure PsTransaction where
  cl1Sk1 : SockaddrIn
  cl1Sk2 : SockaddrIn
  cl1Ts1 : UInt64
  cl1Ts2 : UInt64
  cl2Sk1 : SockaddrIn
  cl2Sk2 : SockaddrIn
  cl2Ts1 : UInt64
  cl2Ts2 : UInt64
deriving DecidableEq

def PsTransaction.create (addr1 : SockaddrIn) (timestamp1 : UInt64) : PsTransaction where
  cl1Sk1 := addr1
  cl1Sk2 := .zero
  cl1Ts1 := timestamp1
  cl1Ts2 := 0
  cl2Sk1 := .zero
  cl2Sk2 := .zero
  cl2Ts1 := 0
  cl2Ts2 := 0

abbrev ClientMap := UInt32 → Option SockaddrIn
abbrev PsMap := UInt32 → Option PsTransaction

inductive ServerSocket
  | first | second
deriving DecidableEq

/-- One datagram taken from a server socket. `clock1` and `clock2` are the first
and the second reading of the clock while it is handled; `fresh` is what the
uninitialised buffer holds when this datagram opens a new round of `select`. -/
structure Received where
  socket : ServerSocket
  payload : Payload
  source : Endpoint
  clock1 : UInt64
  clock2 : UInt64
  fresh : Option Message

structure Sent where
  socket : ServerSocket
  dest : SockaddrIn
  message : Message

structure PsRequest where
  socket : ServerSocket
  transactionId : UInt32
  source : Endpoint
  clock1 : UInt64
  clock2 : UInt64
deriving DecidableEq

structure UdpServer where
  transactionClientMap : ClientMap
  psTransactionClientMap : PsMap
  msg : Message

namespace UdpServer

def init : UdpServer := ⟨fun _ => none,fun _ => none,Message.zero⟩

def ackMessage : Message := Message.zero.setType .ack

def psComplete (map : PsMap) (req : PsRequest) (transaction : PsTransaction) :
    PsMap × Message × List Sent :=
  let ack : Sent := ⟨req.socket,req.source.sockaddr,ackMessage⟩
  if transaction.cl2Sk2.sinAddr ≠ 0 ∧ transaction.cl1Sk2.sinAddr ≠ 0 then
    -- both replies are built in the buffer that held the ack
    let first := (ackMessage.setType .psBindReply).setPsBindReply
      ⟨transaction.cl2Sk1,transaction.cl2Sk2,transaction.cl2Ts1,transaction.cl2Ts2⟩
    let second := first.setPsBindReply
      ⟨transaction.cl1Sk1,transaction.cl1Sk2,transaction.cl1Ts1,transaction.cl1Ts2⟩
    (Function.update map req.transactionId none,second,
      [ack,⟨.first,transaction.cl1Sk1,first⟩,⟨.first,transaction.cl2Sk1,second⟩])
  else
    (Function.update map req.transactionId (some transaction),ackMessage,[ack])

def psBindRequest (map : PsMap) (req : PsRequest) : PsMap × Message × List Sent :=
  let peerAddr := req.source.sockaddr
  let ack : Sent := ⟨req.socket,peerAddr,ackMessage⟩
  match map req.transactionId with
  | none =>
    (Function.update map req.transactionId (some (.create peerAddr req.clock1)),ackMessage,[ack])
  | some transaction =>
    if transaction.cl1Ts1 + 30000 < req.clock1 then
      (Function.update map req.transactionId (some (.create peerAddr req.clock2)),ackMessage,[ack])
    else if transaction.cl1Sk1.sinAddr = peerAddr.sinAddr then
      (Function.update map req.transactionId
        (some {transaction with cl1Ts2 := req.clock2, cl1Sk2 := peerAddr}),ackMessage,[ack])
    else if transaction.cl2Sk1.sinAddr = 0 then
      psComplete map req {transaction with cl2Ts1 := req.clock2, cl2Sk1 := peerAddr}
    else if transaction.cl2Sk1.sinAddr = peerAddr.sinAddr then
      psComplete map req {transaction with cl2Ts2 := req.clock2, cl2Sk2 := peerAddr}
    else psComplete map req transaction

/-- `req` is a reference into the buffer, so the id is read after the buffer was
cleared and overwritten with the ack. -/
def bindRequest (map : ClientMap) (peerAddr : SockaddrIn) : ClientMap × Message × List Sent :=
  let ack : Sent := ⟨.first,peerAddr,ackMessage⟩
  let transactionId := ntohl ackMessage.transactionId
  match map transactionId with
  | none => (Function.update map transactionId (some peerAddr),ackMessage,[ack])
  | some copeerAddr =>
    let toPeer := (ackMessage.setType .bindReply).setBindReply copeerAddr
    let toCopeer := toPeer.setBindReply peerAddr
    (Function.update map transactionId none,toCopeer,
      [ack,⟨.first,peerAddr,toPeer⟩,⟨.first,copeerAddr,toCopeer⟩])

def buffer (s : UdpServer) (d : Received) : Message :=
  (d.fresh.getD s.msg).received d.payload

def psRequest (s : UdpServer) (d : Received) : PsRequest :=
  ⟨d.socket,ntohl (s.buffer d).transactionId,d.source,d.clock1,d.clock2⟩

def handle : Machine UdpServer Received Sent := fun s d =>
  match (s.buffer d).type with
  | some .psBindRequest =>
    let (map,msg,sent) := psBindRequest s.psTransactionClientMap (s.psRequest d)
    ({s with psTransactionClientMap := map, msg := msg},sent)
  | some .bindRequest =>
    let (map,msg,sent) := bindRequest s.transactionClientMap d.source.sockaddr
    ({s with transactionClientMap := map, msg := msg},sent)
  | some .heartbeat =>
    ({s with msg := ackMessage},[⟨.first,d.source.sockaddr,ackMessage⟩])
  | _ => ({s with msg := s.buffer d},[])

end UdpServer

structure FullDatagram (t : MessageType) extends Received where
  full : 56 ≤ payload.length
  typed : payload.type = some t

namespace FullDatagram

variable {t : MessageType}

def transactionId (d : FullDatagram t) : UInt32 :=
  ntohl (Message.zero.received d.payload).transactionId

theorem payload_transactionId (d : FullDatagram t) : d.payload.transactionId = some d.transactionId := by
  have long := d.full
  simp [Payload.transactionId,transactionId,Message.received,show 12 ≤ d.payload.length by omega]

theorem buffer_type (d : FullDatagram t) (s : UdpServer) :
    (s.buffer d.toReceived).type = some t := by
  have nonempty : d.payload ≠ [] := by
    intro empty
    have long := d.full
    simp [empty] at long
  rw [UdpServer.buffer,Message.type_received _ _ nonempty,d.typed]

theorem buffer_transactionId (d : FullDatagram t) (s : UdpServer) :
    ntohl (s.buffer d.toReceived).transactionId = d.transactionId :=
  Message.transactionId_received _ _ _ d.payload_transactionId

def psRequest (d : FullDatagram t) : PsRequest :=
  ⟨d.socket,d.transactionId,d.source,d.clock1,d.clock2⟩

end FullDatagram

namespace UdpServer

/-- The port-scanning half of the server as a machine of its own. -/
def psHandle : Machine PsMap PsRequest Sent := fun map req =>
  ((psBindRequest map req).1,(psBindRequest map req).2.2)

def serve {D : Type} (datagram : D → Received) : Machine UdpServer D Sent :=
  fun s d => handle s (datagram d)

section Dispatch

variable {s : UdpServer} {d : Received}

theorem handle_scan (typed : (s.buffer d).type = some .psBindRequest) :
    (handle s d).1.psTransactionClientMap = (psHandle s.psTransactionClientMap (s.psRequest d)).1 ∧
      (handle s d).1.transactionClientMap = s.transactionClientMap ∧
      (handle s d).2 = (psHandle s.psTransactionClientMap (s.psRequest d)).2 := by
  simp [handle,typed,psHandle]

theorem handle_notScan (typed : (s.buffer d).type ≠ some .psBindRequest) :
    (handle s d).1.psTransactionClientMap = s.psTransactionClientMap := by
  unfold handle
  split
  · contradiction
  · rfl
  · rfl
  · rfl

theorem handle_quiet (other : (s.buffer d).type ≠ some .psBindRequest ∧ (s.buffer d).type ≠ some .bindRequest ∧
    (s.buffer d).type ≠ some .heartbeat) : handle s d = ({s with msg := s.buffer d},[]) := by
  unfold handle
  split
  · exact absurd ‹_› other.1
  · exact absurd ‹_› other.2.1
  · exact absurd ‹_› other.2.2
  · rfl

end Dispatch

theorem handle_psBindRequest (s : UdpServer) (d : FullDatagram .psBindRequest) :
    (handle s d.toReceived).1.psTransactionClientMap =
      (psHandle s.psTransactionClientMap d.psRequest).1 ∧
    (handle s d.toReceived).2 = (psHandle s.psTransactionClientMap d.psRequest).2 := by
  have same : s.psRequest d.toReceived = d.psRequest := by
    simp [psRequest,FullDatagram.psRequest,d.buffer_transactionId]
  obtain ⟨map,_,sent⟩ := handle_scan (d.buffer_type s)
  rw [map,sent,same]
  exact ⟨rfl,rfl⟩

end UdpServer

/-- A request as `p2p_ps_connector_t::connect` sends it: a cleared message with a
type and an id, received on a server socket at a time. -/
def FullDatagram.ofRequest (t : MessageType) (id : UInt32) (source : Endpoint) (socket : ServerSocket)
    (time : UInt64) : FullDatagram t where
  socket := socket
  payload := Payload.ofMessage (Message.zero.request t id)
  source := source
  clock1 := time
  clock2 := time
  fresh := some Message.zero
  full := by simp [Payload.ofMessage]
  typed := by
    have nonempty : Payload.ofMessage (Message.zero.request t id) ≠ [] := by
      simp [Payload.ofMessage]
    rw [← Message.type_received Message.zero _ nonempty]
    simp

def scanRequest (addr : UInt32) (port : UInt16) (socket : ServerSocket) (time : UInt64) :
    FullDatagram .psBindRequest :=
  .ofRequest .psBindRequest 7 ⟨addr,port⟩ socket time

/-- A port-scanning request from a source whose IP address is not zero. -/
structure RoutedRequest extends FullDatagram .psBindRequest where
  routed : source.addr ≠ 0

structure ClockedRequest extends RoutedRequest where
  oneReading : clock1 = clock2

end P2pStun
