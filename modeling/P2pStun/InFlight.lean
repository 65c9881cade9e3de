import P2pStun.Stages

/-! What the network holds of the datagrams of plain hole punching when none is lost: what
the server has on its way to a client in order, and what two partners have sent each other. -/
namespace P2pStun.Deployment
open Runs Handshake

variable {ι : Type} (d : Deployment ι)

def servers : List Endpoint := [d.server .first,d.server .second]

theorem mem_servers (e : Endpoint) : e ∈ d.servers ↔ ∃ s, e = d.server s := by
  constructor
  · intro member
    rcases List.mem_cons.mp member with first | rest
    · exact ⟨.first,first⟩
    · exact ⟨.second,List.mem_singleton.mp rest⟩
  · rintro ⟨s,rfl⟩
    cases s <;> simp [servers]

theorem endpoint_not_server (i : ι) : d.endpoint i ∉ d.servers := by
  rw [mem_servers]
  rintro ⟨s,same⟩
  exact d.apart i s same

abbrev Partners (net : Network ι) (i j : ι) : Prop :=
  Paired d.servers .bindReply net.flight (net.stage i) (net.stage j) (d.endpoint i) (d.endpoint j)

/-- Nothing is lost on a client before the server introduces it. -/
structure Prompt (m : Matching ι) (net : Network ι) : Prop where
  oneSocket : ∀ p ∈ net.flight, ∀ s, p.src = d.server s → p.src = d.server .first
  absent : ∀ i, net.client i = none → inbox d.servers net.flight (d.endpoint i) = []
  unserved : ∀ i, d.endpoint i ∈ requesters net.flight →
    net.stage i = some .asked ∧ inbox d.servers net.flight (d.endpoint i) = []
  single : ∀ i, net.client i ≠ none → m.partner i = none → d.endpoint i ∉ requesters net.flight →
    net.server.transactionClientMap 0 = some (d.endpoint i).sockaddr ∧
      ((net.stage i = some .asked ∧ inbox d.servers net.flight (d.endpoint i) = [some .ack]) ∨
        (net.stage i = some .listening ∧ inbox d.servers net.flight (d.endpoint i) = []))
  paired : ∀ i j, m.partner i = some j → d.transactionId i = d.transactionId j → d.Partners net i j

variable {d} {m : Matching ι} {net : Network ι} {i : ι} {p : Packet}

theorem fromServer (s : ServerSocket) (source : p.src = d.server s) (mine : p.dst = d.endpoint i) :
    FromServer d.servers (d.endpoint i) p :=
  ⟨(d.mem_servers _).mpr ⟨s,source⟩,mine⟩

theorem inbox_sentBy (flight : List Packet) (i l : ι) (out : List Outgoing) :
    inbox d.servers (flight ++ d.sentBy i out) (d.endpoint l) = inbox d.servers flight (d.endpoint l) := by
  have own : ∀ q ∈ d.sentBy i out, q.src ∉ d.servers := by
    intro q member
    obtain ⟨x,_,rfl⟩ := List.mem_map.mp member
    exact d.endpoint_not_server i
  rw [inbox_append,inbox_sent own,List.append_nil]

theorem flies_sentBy {out : List Outgoing} {type : MessageType} {i j l : ι}
    (flies : Flies (d.sentBy l out) type (d.endpoint i) (d.endpoint j)) : i = l := by
  obtain ⟨q,member,source,_⟩ := flies
  obtain ⟨x,_,rfl⟩ := List.mem_map.mp member
  exact (d.distinct source).symm

theorem present_of_packet (consistent : d.Consistent m net) (prompt : d.Prompt m net) (member : p ∈ net.flight)
    (mine : p.dst = d.endpoint i) : net.client i ≠ none := by
  intro none_there
  have free := consistent.idle i none_there
  have ok := consistent.packets p member
  have empty := prompt.absent i none_there
  cases ok with
  | bindRequest a s msg typed => exact d.apart i s mine.symm
  | ack a s msg typed => exact inbox_ne_nil (fromServer s rfl mine) member empty
  | bindReply a j s msg typed => exact inbox_ne_nil (fromServer s rfl mine) member empty
  | clientBindRequest a j msg typed own partners =>
    have ours := m.symmetric a j partners
    rw [d.distinct mine,free] at ours
    contradiction
  | clientBindResponse a j msg typed partners =>
    have ours := m.symmetric a j partners
    rw [d.distinct mine,free] at ours
    contradiction

variable [DecidableEq ι] {next : Connecting × List Outgoing}

theorem stage_own (rest : List Packet) : (d.setClient {net with flight := rest} i next).stage i = next.1.stage := by
  simp [Network.stage,setClient]

theorem client_other {l : ι} (other : l ≠ i) (rest : List Packet) :
    (d.setClient {net with flight := rest} i next).client l = net.client l :=
  Function.update_of_ne other _ _

theorem stage_other {l : ι} (other : l ≠ i) (rest : List Packet) :
    (d.setClient {net with flight := rest} i next).stage l = net.stage l := by
  simp [Network.stage,setClient,Function.update_of_ne other]

end P2pStun.Deployment
