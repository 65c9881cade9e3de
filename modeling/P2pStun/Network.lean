import P2pStun.P2pConnector
import P2pStun.PlainRendezvous

/-! Any number of clients, each calling `p2p_connector_t::connect` at most once, the
server, and the datagrams between them. The network loses, delays and reorders them;
it neither copies nor forges them and leaves the addresses alone. -/
namespace P2pStun
open Runs

structure Deployment (ι : Type) where
  endpoint : ι → Endpoint
  server : ServerSocket → Endpoint
  connector : ι → P2pConnector
  distinct : Function.Injective endpoint
  apart : ∀ i s, endpoint i ≠ server s
  configured : ∀ i, ∃ s, (connector i).stunServerAddress.endpoint = server s

structure Packet where
  src : Endpoint
  dst : Endpoint
  payload : Payload

/-- A client is absent until it calls `connect`. -/
structure Network (ι : Type) where
  client : ι → Option Connecting
  server : UdpServer
  flight : List Packet

/-- Packets are chosen by their position among those in flight. -/
inductive Event (ι : Type)
  | call (i : ι) (socket : UdpSocket) (sendOk : Bool)
  | wait (i : ι) (failed sendOk : Bool) (stack : Message)
  | deliver (i : ι) (position len : Nat) (sendOk : Bool) (stack : Message)
  | serve (s : ServerSocket) (position : Nat) (clock1 clock2 : UInt64) (fresh : Option Message)
  | lose (position : Nat)

namespace Deployment

variable {ι : Type} [DecidableEq ι] (d : Deployment ι)

def sentBy (i : ι) (out : List Outgoing) : List Packet :=
  out.map (fun x => ⟨d.endpoint i,x.dest.endpoint,x.payload⟩)

def sentByServer (sent : List Sent) : List Packet :=
  sent.map (fun x => ⟨d.server x.socket,x.dest.endpoint,Payload.ofMessage x.message⟩)

def setClient (net : Network ι) (i : ι) (next : Connecting × List Outgoing) : Network ι :=
  {net with
    client := Function.update net.client i (some next.1)
    flight := net.flight ++ d.sentBy i next.2}

def clientStep (net : Network ι) (i : ι) (e : ReceiveStep) : Network ι :=
  match net.client i with
  | none => net
  | some k => d.setClient net i ((d.connector i).connect k e)

def serverStep (net : Network ι) (r : Received) : Network ι :=
  {net with
    server := (UdpServer.handle net.server r).1
    flight := net.flight ++ d.sentByServer (UdpServer.handle net.server r).2}

def next (net : Network ι) : Event ι → Network ι
  | .call i socket sendOk =>
    match net.client i with
    | none => d.setClient net i ((d.connector i).start socket sendOk)
    | some _ => net
  | .wait i failed sendOk stack =>
    d.clientStep net i ⟨if failed then .error [] else .timeout,sendOk,stack⟩
  | .deliver i position len sendOk stack =>
    match net.flight[position]? with
    | none => net
    | some p =>
      if p.dst = d.endpoint i then
        d.clientStep {net with flight := net.flight.eraseIdx position} i
          ⟨.of (recvfrom p.payload p.src len),sendOk,stack⟩
      else net
  | .serve s position clock1 clock2 fresh =>
    match net.flight[position]? with
    | none => net
    | some p =>
      if p.dst = d.server s then
        d.serverStep {net with flight := net.flight.eraseIdx position}
          ⟨s,p.payload,p.src,clock1,clock2,fresh⟩
      else net
  | .lose position => {net with flight := net.flight.eraseIdx position}

def step : Machine (Network ι) (Event ι) Unit := fun net e => (d.next net e,[])

end Deployment

def Network.start {ι : Type} : Network ι := ⟨fun _ => none,UdpServer.init,[]⟩

end P2pStun
