import P2pStun.P2pConnector

/-! An established connection. `receive` hands the target address itself to `recvfrom`,
where `wait_receive` has an object of its own for the sender's address. -/
namespace P2pStun.UdpConnection
open Runs ByteLayout

def KeepsPeer (c : UdpConnection) (calls : List Call) : Prop :=
  (∀ x ∈ outputs call c calls, x.dest = c.socket.targetAddress) ∧
    ∀ before after, calls = before ++ after →
      (run call c before).socket.targetAddress = c.socket.targetAddress

/-- The bytes of the sender's address that `receive` lets through are those of the peer. -/
def FromPeer (peer : SockaddrIn) : Call → Prop
  | .receive _ (.ok d) =>
    ∀ i : Fin 16, i.val < d.len → SockaddrIn.layout d.source.sockaddr i = SockaddrIn.layout peer i
  | _ => True

theorem call_target_iff (c : UdpConnection) (e : Call) :
    (call c e).1.socket.targetAddress = c.socket.targetAddress ↔ FromPeer c.socket.targetAddress e := by
  cases e with
  | send buffer ok => exact iff_of_true rfl trivial
  | receive maxSize found =>
    cases found with
    | error written => exact iff_of_true rfl trivial
    | ok d => exact partly_eq_iff SockaddrIn.layout _ _ _
  | waitReceive maxSize found =>
    cases found with
    | timeout => exact iff_of_true rfl trivial
    | error written => exact iff_of_true rfl trivial
    | datagram d => exact iff_of_true rfl trivial

theorem call_dest (c : UdpConnection) (e : Call) :
    ∀ x ∈ (call c e).2, x.dest = c.socket.targetAddress := by
  intro x member
  cases e with
  | send buffer ok =>
    cases ok with
    | true =>
      rw [List.mem_singleton.mp member]
    | false => contradiction
  | receive maxSize found => contradiction
  | waitReceive maxSize found => contradiction

theorem keepsPeer_cons (c : UdpConnection) (e : Call) (calls : List Call) :
    KeepsPeer c (e :: calls) ↔
      FromPeer c.socket.targetAddress e ∧ KeepsPeer (call c e).1 calls := by
  rw [← call_target_iff]
  constructor
  · rintro ⟨sent,kept⟩
    have first : (call c e).1.socket.targetAddress = c.socket.targetAddress := kept [e] calls rfl
    refine ⟨first,?_,?_⟩
    · intro x member
      rw [sent x (List.mem_append_right _ member)]
      exact first.symm
    · rintro before after rfl
      rw [first]
      exact kept (e :: before) after rfl
  · rintro ⟨first,sent,kept⟩
    rw [first] at sent kept
    refine ⟨?_,?_⟩
    · intro x member
      rcases List.mem_append.mp member with now | later
      · exact call_dest c e x now
      · exact sent x later
    · intro before after split
      cases before with
      | nil => rfl
      | cons f before =>
        obtain ⟨rfl,rfl⟩ := List.cons.inj split
        exact kept before after rfl

/-- The connection keeps its peer as long as `receive` takes datagrams of the peer only. -/
theorem keepsPeer_iff (c : UdpConnection) (calls : List Call) :
    KeepsPeer c calls ↔ ∀ e ∈ calls, FromPeer c.socket.targetAddress e := by
  induction calls generalizing c with
  | nil =>
    refine iff_of_true ⟨by simp,?_⟩ (by simp)
    intro before after split
    rw [(List.append_eq_nil_iff.mp split.symm).1]
    rfl
  | cons e calls ih =>
    rw [keepsPeer_cons,List.forall_mem_cons,ih]
    apply and_congr_right
    intro first
    rw [(call_target_iff c e).mpr first]

def peer : Endpoint := ⟨2,20⟩

def rendezvous : List ReceiveStep :=
  let server := (Address.mk 1 10).endpoint
  let ack := Message.zero.setType .ack
  [⟨.datagram (.whole (.ofMessage ack) server),true,Message.zero⟩,
    ⟨.datagram (.whole (.ofMessage ((ack.setType .bindReply).setBindReply peer.sockaddr)) server),
      true,Message.zero⟩,
    ⟨.datagram (.whole (.ofMessage (Message.zero.request .clientBindResponse 7)) peer),
      true,Message.zero⟩]

def connectedSocket : Connecting :=
  run (P2pConnector.connect ⟨⟨1,10⟩,7⟩) (P2pConnector.start ⟨⟨1,10⟩,7⟩ (UdpSocket.create.init (some 3)).1 true).1
    rendezvous

theorem stranger_not_keepsPeer :
    connectedSocket.progress = .returned .connectionSuccessful ∧
      connectedSocket.socket.targetAddress = peer.sockaddr ∧
      ¬KeepsPeer ⟨connectedSocket.socket⟩
        [.receive 254 (recvfrom [104,105] ⟨9,90⟩ 16),.send [72,105] true] := by
  have target : connectedSocket.socket.targetAddress = peer.sockaddr := by decide
  refine ⟨by decide,target,?_⟩
  rintro ⟨_,kept⟩
  have moved := kept [.receive 254 (recvfrom [104,105] ⟨9,90⟩ 16)] [.send [72,105] true] rfl
  have fromPeer := (call_target_iff _ _).mp moved 4 (by decide)
  rw [target] at fromPeer
  exact absurd fromPeer (by decide)

end P2pStun.UdpConnection
