import P2pStun.P2pConnector
import P2pStun.PortManager

/-! The scanning connector, `p2p_ps_connector_t`: two requests to the server, from
one socket or from two, and a scan for the predicted port of the other client. -/
namespace P2pStun
open Runs

structure ScanCall (fpu : FloatUnit) where
  fd : Option Int
  draw : Draw fpu
  sendOk : Bool
  stack : Message

inductive SelectOutcome
  | timeout | error | ready (readable : Int → Bool)

structure PsStep (fpu : FloatUnit) extends ReceiveStep where
  helperFd : Option Int
  helperDraw : Draw fpu
  timeNow : UInt64
  scans : Fin 50 → ScanCall fpu
  select : SelectOutcome

structure PsConnecting extends Connecting where
  socket2 : UdpSocket
  basePort : UInt16
  portman : PortManager

structure P2pPsConnector where
  stunServerAddress1 : Address
  stunServerAddress2 : Address
  transactionId : UInt32
  isSymNat : Bool

def scanRange : UInt32 := 50

def timediffPortAllocation (t1 t2 : UInt64) : UInt64 := t2 - t1 + 1

def determineTargetPort (fpu : FloatUnit) (firstPort secondPort : UInt16) (t1 t2 : UInt64)
    (scanRange : UInt32) (timeNow : UInt64) : UInt16 :=
  if firstPort = secondPort then firstPort
  -- both bounds are computed in `int`, so nothing wraps here
  else if (firstPort.toNat : Int) + 250 > secondPort.toNat ∧
      (firstPort.toNat : Int) - 250 < secondPort.toNat then
    let distance := secondPort - firstPort
    let timediffNow := timeNow - t2
    let parts := fpu.div (fpu.ofNat (timediffNow + 100).toNat)
      (fpu.ofNat (timediffPortAllocation t1 t2).toNat)
    let moved := fpu.add (fpu.ofNat secondPort.toNat) (fpu.mul parts (fpu.ofNat distance.toNat))
    if distance > 0 then fpu.toUInt16 (fpu.add moved (fpu.ofNat (scanRange / 2).toNat))
    else fpu.toUInt16 (fpu.sub moved (fpu.ofNat (scanRange / 2).toNat))
  else 0

namespace P2pPsConnector

variable {fpu : FloatUnit}

def stunServerAddr1 (c : P2pPsConnector) : SockaddrIn := c.stunServerAddress1.sockaddr
def stunServerAddr2 (c : P2pPsConnector) : SockaddrIn := c.stunServerAddress2.sockaddr

def start (c : P2pPsConnector) (socket : UdpSocket) (portman : PortManager) (draw : Draw fpu)
    (sendOk : Bool) : PsConnecting × List Outgoing :=
  let (portman,basePort) := socket.bindByPortman portman 0 draw
  let socket := socket.setTargetAddress c.stunServerAddr1
  let message := Message.zero.request .psBindRequest c.transactionId
  let (sent,out) := socket.send (Payload.ofMessage message) sendOk
  (⟨⟨socket,message,.disconnected,if sent then .awaitAck false else .returned .connectionError⟩,
    .create,basePort,portman⟩,out)

/-- The socket of the second request, the connection's own where the NAT is not symmetric. -/
def helperSocket (c : P2pPsConnector) (k : PsConnecting) : UdpSocket :=
  if c.isSymNat then k.socket2 else k.socket

def setHelperSocket (c : P2pPsConnector) (k : PsConnecting) (helper : UdpSocket) : PsConnecting :=
  if c.isSymNat then {k with socket2 := helper} else {k with socket := helper}

def secondRequest (c : P2pPsConnector) (k : PsConnecting) (e : PsStep fpu) :
    PsConnecting × List Outgoing :=
  let (helper,ready) := if c.isSymNat then k.socket2.init e.helperFd else (k.socket,true)
  if ¬ready then ({c.setHelperSocket k helper with progress := .returned .connectionError},[])
  else
    let portman := if c.isSymNat then (helper.bindByPortman k.portman k.basePort e.helperDraw).1
      else k.portman
    let helper := helper.setTargetAddress c.stunServerAddr2
    let message := k.message.request .psBindRequest c.transactionId
    let (sent,out) := helper.send (Payload.ofMessage message) e.sendOk
    ({c.setHelperSocket k helper with
        message := message
        portman := portman
        progress := if sent then .awaitAck true else .returned .connectionError},out)

def openScanSockets (c : P2pPsConnector) (addr : SockaddrIn) (basePort : UInt16) :
    PortManager → List (ScanCall fpu) → PortManager × List UdpSocket × List Outgoing × Bool
  | portman,[] => (portman,[],[],true)
  | portman,call :: rest =>
    let (socket,ready) := UdpSocket.create.init call.fd
    if ¬ready then (portman,[],[],false)
    else
      let (portman,_) := socket.bindByPortman portman basePort call.draw
      let socket := socket.setTargetAddress addr
      let (_,out) := tryConnectToClient c.transactionId socket call.sendOk call.stack
      let (portman,sockets,outs,all) := openScanSockets c addr basePort portman rest
      (portman,socket :: sockets,out ++ outs,all)

/-- -1 for not possible, 0 for failed, 1 for success. -/
def tryStartPsConnection (c : P2pPsConnector) (k : PsConnecting) (bindReply : PsBindReply)
    (e : PsStep fpu) : PsConnecting × Int × List Outgoing :=
  let p1 := ntohs bindReply.addrOne.sinPort
  let p2 := ntohs bindReply.addrTwo.sinPort
  let targetPort := determineTargetPort fpu p1 p2 bindReply.t1 bindReply.t2 scanRange e.timeNow
  if targetPort = 0 then (k,-1,[])
  else
    let addr := {bindReply.addrOne with sinPort := htons targetPort}
    if c.isSymNat then
      let (portman,sockets,out,all) :=
        c.openScanSockets addr k.basePort k.portman (List.ofFn e.scans)
      let k := {k with portman := portman}
      if ¬all then (k,-1,out)
      else match e.select with
      | .timeout => (k,0,out)
      | .error => (k,0,out)
      | .ready readable =>
        match sockets.find? (fun s => readable s.socketHandle) with
        | some socket => ({k with socket := socket},1,out)
        | none => (k,0,out)
    else
      let socket := k.socket.setTargetAddress addr
      let (_,out) := tryConnectToClient c.transactionId socket e.sendOk e.stack
      let k := {k with socket := socket}
      match e.select with
      | .timeout => (k,0,out)
      | .error => (k,0,out)
      | .ready _ => (k,1,out)

def again (k : PsConnecting) (attemptsLeft : Nat) : PsConnecting :=
  {k with toConnecting := k.toConnecting.again attemptsLeft}

def established (k : PsConnecting) : PsConnecting :=
  {k with toConnecting := k.toConnecting.established}

def onMessage (c : P2pPsConnector) (k : PsConnecting) (attemptsLeft : Nat) (e : PsStep fpu) :
    PsConnecting × List Outgoing :=
  let peerAddr := k.socket.peerAddress
  match k.message.type with
  | some .psBindReply =>
    if peerAddr.sinAddr ≠ c.stunServerAddr2.sinAddr ∧ peerAddr.sinAddr ≠ c.stunServerAddr1.sinAddr then
      (again k attemptsLeft,[])
    else
      let (k,success,out) := c.tryStartPsConnection k k.message.psBindReply e
      if success = -1 then ({k with progress := .returned .connectionFailed},out)
      else if success = 0 then ({k with progress := .returned .connectionFailed},out)
      -- the two attempts left are counted down at once
      else (again k (2 - 1),out)
  | some .clientBindRequest =>
    let (socket,replied,out) :=
      replyToBindRequest c.transactionId k.socket k.message peerAddr e.sendOk e.stack
    let k := {k with socket := socket}
    if replied then (established k,out) else (again k (attemptsLeft - 1),out)
  | some .clientBindResponse =>
    if ¬SameHost peerAddr k.socket.targetAddress then (again k attemptsLeft,[])
    else (established k,[])
  | some .ack => (again k attemptsLeft,[])
  | _ => (again k (attemptsLeft - 1),[])

def receive (c : P2pPsConnector) (k : PsConnecting) (attemptsLeft : Nat) (e : PsStep fpu) :
    PsConnecting × List Outgoing :=
  let (socket,result,bytes) := k.socket.waitReceive 56 e.outcome
  let k := {k with socket := socket, message := k.message.received bytes}
  if result = 0 then (again k (attemptsLeft - 1),[])
  else if result < 0 then (again k (attemptsLeft - 1),[])
  else c.onMessage k attemptsLeft e

def connect (c : P2pPsConnector) : Machine PsConnecting (PsStep fpu) Outgoing := fun k e =>
  match k.progress with
  | .awaitAck false =>
    let (socket,result,bytes) := k.socket.waitReceive 56 e.outcome
    let k := {k with socket := socket, message := k.message.received bytes}
    if result = -1 ∨ result = 0 then ({k with progress := .returned .connectionError},[])
    else c.secondRequest k e
  | .awaitAck true =>
    let (socket,result,bytes) := (c.helperSocket k).waitReceive 56 e.outcome
    let k := {c.setHelperSocket k socket with message := k.message.received bytes}
    if result = -1 ∨ result = 0 then ({k with progress := .returned .connectionError},[])
    else ({k with state := .waitingForStunReply, progress := .receiving 5},[])
  | .receiving attemptsLeft => c.receive k attemptsLeft e
  | .returned _ => (k,[])

theorem receive_datagram (c : P2pPsConnector) (k : PsConnecting) (n : Nat) (e : PsStep fpu)
    (d : Incoming) (found : e.outcome = .datagram d) (nonempty : d.payload ≠ []) :
    c.receive k n e = c.onMessage {k with toConnecting := k.took d} n e := by
  have positive : 0 < d.payload.length := List.length_pos_iff.mpr nonempty
  have some_bytes : ¬(min (d.payload.length : Int) 56 = 0) ∧ ¬(min (d.payload.length : Int) 56 < 0) := by
    omega
  simp [receive,found,UdpSocket.waitReceive,some_bytes,Connecting.took]

variable (c : P2pPsConnector) (k : PsConnecting) (n : Nat) (e : PsStep fpu)

theorem onMessage_clientBindRequest (typed : k.message.type = some .clientBindRequest) :
    c.onMessage k n e =
      if ntohl k.message.transactionId = c.transactionId then
        (established {k with socket := k.socket.setTargetAddress k.socket.peerAddress},
          ((k.socket.setTargetAddress k.socket.peerAddress).send
            (Payload.ofMessage (e.stack.request .clientBindResponse c.transactionId)) e.sendOk).2)
      else (again k (n - 1),[]) := by
  by_cases same : ntohl k.message.transactionId = c.transactionId
  · simp [onMessage,typed,replyToBindRequest_eq,same]
  · simp [onMessage,typed,replyToBindRequest_eq,same]

theorem onMessage_clientBindResponse (typed : k.message.type = some .clientBindResponse) :
    c.onMessage k n e =
      if SameHost k.socket.peerAddress k.socket.targetAddress then (established k,[])
      else (again k n,[]) := by
  simp [onMessage,typed]

end P2pPsConnector

end P2pStun
