import P2pStun.Network
import P2pStun.ResultCauses

/-! Any number of scanning clients behind address translators, each calling
`p2p_ps_connector_t::connect` at most once, the server, and the datagrams between them.
The network loses, delays and reorders datagrams; a translator gives each one it lets out
any endpoint that belongs to its client. -/
namespace P2pStun
open Runs

structure ScanDeployment (ι : Type) where
  owner : Endpoint → Option ι
  ip : ι → UInt32
  server : ServerSocket → Endpoint
  connector : ι → P2pPsConnector
  located : ∀ e i, owner e = some i → e.addr = ip i
  apart : ∀ s, owner (server s) = none

namespace ScanDeployment

variable {ι : Type} (d : ScanDeployment ι) {fpu : FloatUnit}

def transactionId (i : ι) : UInt32 := (d.connector i).transactionId

/-- The endpoint a datagram of a client comes from, once it is outside. -/
structure Translation (i : ι) where
  outside : Outgoing → Endpoint
  own : ∀ x, d.owner (outside x) = some i

def Translation.packet {d : ScanDeployment ι} {i : ι} (nat : d.Translation i) (x : Outgoing) : Packet :=
  ⟨nat.outside x,x.dest.endpoint,x.payload⟩

inductive Event (fpu : FloatUnit)
  | call (i : ι) (socket : UdpSocket) (portman : PortManager) (draw : Draw fpu) (sendOk : Bool)
      (nat : d.Translation i)
  | wait (i : ι) (failed : Bool) (e : PsStep fpu) (nat : d.Translation i)
  | deliver (i : ι) (position len : Nat) (e : PsStep fpu) (nat : d.Translation i)
  | serve (s : ServerSocket) (position : Nat) (clock1 clock2 : UInt64) (fresh : Option Message)
  | lose (position : Nat)

end ScanDeployment

structure ScanNetwork (ι : Type) where
  client : ι → Option PsConnecting
  server : UdpServer
  flight : List Packet

def ScanNetwork.start {ι : Type} : ScanNetwork ι := ⟨fun _ => none,UdpServer.init,[]⟩

def PsStep.hearing {fpu : FloatUnit} (e : PsStep fpu) (outcome : RecvOutcome) : PsStep fpu :=
  {e with outcome := outcome}

namespace ScanDeployment

variable {ι : Type} [DecidableEq ι] (d : ScanDeployment ι) {fpu : FloatUnit}

def sentByServer (sent : List Sent) : List Packet :=
  sent.map (fun x => ⟨d.server x.socket,x.dest.endpoint,Payload.ofMessage x.message⟩)

def setClient {d : ScanDeployment ι} (net : ScanNetwork ι) (i : ι) (nat : d.Translation i)
    (next : PsConnecting × List Outgoing) : ScanNetwork ι × List Packet :=
  let sent := next.2.map nat.packet
  ({net with client := Function.update net.client i (some next.1), flight := net.flight ++ sent},sent)

def clientStep (net : ScanNetwork ι) (i : ι) (nat : d.Translation i) (e : PsStep fpu) :
    ScanNetwork ι × List Packet :=
  match net.client i with
  | none => (net,[])
  | some k => setClient net i nat ((d.connector i).connect k e)

def serverStep (net : ScanNetwork ι) (r : Received) : ScanNetwork ι × List Packet :=
  let sent := d.sentByServer (UdpServer.handle net.server r).2
  ({net with server := (UdpServer.handle net.server r).1, flight := net.flight ++ sent},sent)

def step : Machine (ScanNetwork ι) (d.Event fpu) Packet := fun net e => match e with
  | .call i socket portman draw sendOk nat =>
    match net.client i with
    | none => setClient net i nat ((d.connector i).start socket portman draw sendOk)
    | some _ => (net,[])
  | .wait i failed e nat => d.clientStep net i nat (e.hearing (if failed then .error [] else .timeout))
  | .deliver i position len e nat =>
    match net.flight[position]? with
    | none => (net,[])
    | some p =>
      if d.owner p.dst = some i then
        d.clientStep {net with flight := net.flight.eraseIdx position} i nat
          (e.hearing (.of (recvfrom p.payload p.src len)))
      else (net,[])
  | .serve s position clock1 clock2 fresh =>
    match net.flight[position]? with
    | none => (net,[])
    | some p =>
      if p.dst = d.server s then
        d.serverStep {net with flight := net.flight.eraseIdx position}
          ⟨s,p.payload,p.src,clock1,clock2,fresh⟩
      else (net,[])
  | .lose position => ({net with flight := net.flight.eraseIdx position},[])

end ScanDeployment

end P2pStun
