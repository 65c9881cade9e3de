import P2pStun.Server
import Mathlib.Algebra.Group.Nat.Even

/-! The plain rendezvous. The id of a `bind_request` is read from the buffer after
it was cleared, so every request is looked up under id zero and consecutive
requests are paired whatever ids they carry. -/
namespace P2pStun.UdpServer
open Runs

theorem ackMessage_transactionId : ntohl ackMessage.transactionId = 0 := by
  simp [ackMessage]

def ackPlain (source : Endpoint) : Sent := ⟨.first,source.sockaddr,ackMessage⟩

def bindReplyMessage (a : SockaddrIn) : Message := (ackMessage.setType .bindReply).setBindReply a

@[simp] theorem bindReplyMessage_type (a : SockaddrIn) :
    (bindReplyMessage a).type = some .bindReply := by
  simp [bindReplyMessage]

@[simp] theorem bindReplyMessage_bindReply (a : SockaddrIn) : (bindReplyMessage a).bindReply = a := by
  simp [bindReplyMessage]

def plainHandle : Machine ClientMap Endpoint Sent := fun map source =>
  match map 0 with
  | none => (Function.update map 0 (some source.sockaddr),[ackPlain source])
  | some copeer =>
    (Function.update map 0 none,
      [ackPlain source,⟨.first,source.sockaddr,bindReplyMessage copeer⟩,
        ⟨.first,copeer,bindReplyMessage source.sockaddr⟩])

theorem bindRequest_eq (map : ClientMap) (source : Endpoint) :
    ((bindRequest map source.sockaddr).1,(bindRequest map source.sockaddr).2.2) =
      plainHandle map source := by
  have rewritten (a b : SockaddrIn) : (bindReplyMessage a).setBindReply b = bindReplyMessage b := by
    simp only [bindReplyMessage,Message.setBindReply,ByteLayout.splice_splice]
  simp only [bindRequest,plainHandle,ackMessage_transactionId]
  cases map 0 with
  | none => rfl
  | some copeer =>
    have second := rewritten copeer source.sockaddr
    simp only [bindReplyMessage] at second
    simp only [second,bindReplyMessage,ackPlain]

theorem handle_plain {s : UdpServer} {d : Received} (typed : (s.buffer d).type = some .bindRequest) :
    (handle s d).1.transactionClientMap = (plainHandle s.transactionClientMap d.source).1 ∧
      (handle s d).2 = (plainHandle s.transactionClientMap d.source).2 := by
  rw [← bindRequest_eq]
  simp [handle,typed]

theorem handle_bindRequest (s : UdpServer) (d : FullDatagram .bindRequest) :
    (handle s d.toReceived).1.transactionClientMap =
      (plainHandle s.transactionClientMap d.source).1 ∧
    (handle s d.toReceived).2 = (plainHandle s.transactionClientMap d.source).2 :=
  handle_plain (d.buffer_type s)

abbrev servePlain : Machine UdpServer (FullDatagram .bindRequest) Sent := serve (fun d => d.toReceived)

theorem clientMap_run (ds : List (FullDatagram .bindRequest)) (k : UInt32) :
    (run servePlain init ds).transactionClientMap k =
      if k = 0 ∧ Odd ds.length then ds.getLast?.map (·.source.sockaddr) else none := by
  refine history_invariant (fun past (s : UdpServer) => ∀ k, s.transactionClientMap k =
    if k = 0 ∧ Odd past.length then past.getLast?.map (·.source.sockaddr) else none) ?_ ?_ ds k
  · intro k
    simp [init]
  · intro past d before k
    have zero := before 0
    rw [show servePlain = serve (fun d : FullDatagram .bindRequest => d.toReceived) from rfl,serve,
      (handle_bindRequest _ d).1,plainHandle]
    by_cases odd : Odd past.length
    · have nonempty : past ≠ [] := by
        intro empty
        simp [empty] at odd
      rw [if_pos ⟨rfl,odd⟩,List.getLast?_eq_some_getLast nonempty] at zero
      simp only [Option.map_some] at zero
      rw [zero]
      by_cases same : k = 0
      · subst k
        simp [Nat.odd_add_one,odd]
      · simp [before k,same]
    · rw [if_neg (fun both => odd both.2)] at zero
      rw [zero]
      by_cases same : k = 0
      · subst k
        simp [Nat.odd_add_one,odd]
      · simp [before k,same]

/-- The map holds the source of the last request with an id exactly while the
number of requests with it is odd. -/
def KeepsById (past : List (FullDatagram .bindRequest)) : Prop :=
  ∀ k, (run servePlain init past).transactionClientMap k =
    if Odd (past.filter (fun d => d.transactionId == k)).length
    then (past.filter (fun d => d.transactionId == k)).getLast?.map (·.source.sockaddr) else none

/-- The recipient of a reply and the endpoint it carries sent the same id. -/
def IntroducesById (past : List (FullDatagram .bindRequest)) (d : FullDatagram .bindRequest) : Prop :=
  ∀ x ∈ (servePlain (run servePlain init past) d).2, x.message.type = some .bindReply →
    ∃ a ∈ past ++ [d], ∃ b ∈ past ++ [d], a.transactionId = b.transactionId ∧
      x.dest = a.source.sockaddr ∧ x.message.bindReply = b.source.sockaddr

def PairsById (ds : List (FullDatagram .bindRequest)) : Prop :=
  (∀ past, past <+: ds → KeepsById past) ∧
    ∀ past d rest, ds = past ++ d :: rest → IntroducesById past d

theorem zero_of_keepsById (past : List (FullDatagram .bindRequest)) (d : FullDatagram .bindRequest)
    (before : KeepsById past) (after : KeepsById (past ++ [d])) : d.transactionId = 0 := by
  by_contra other
  have none_before := before d.transactionId
  have none_after := after d.transactionId
  rw [clientMap_run,if_neg (fun both => other both.1)] at none_before none_after
  simp only [List.filter_append,List.filter_cons,beq_self_eq_true,if_true,List.filter_nil,
    List.length_append,List.length_singleton,Nat.odd_add_one,List.getLast?_concat,Option.map_some]
    at none_after
  by_cases odd : Odd (past.filter (fun e => e.transactionId == d.transactionId)).length
  · have nonempty : past.filter (fun e => e.transactionId == d.transactionId) ≠ [] := by
      intro empty
      simp [empty] at odd
    rw [if_pos odd,List.getLast?_eq_some_getLast nonempty] at none_before
    contradiction
  · rw [if_pos odd] at none_after
    contradiction

theorem filter_of_zero (past : List (FullDatagram .bindRequest))
    (zero : ∀ d ∈ past, d.transactionId = 0) (k : UInt32) :
    past.filter (fun d => d.transactionId == k) = if k = 0 then past else [] := by
  split_ifs with same
  · rw [List.filter_eq_self]
    intro d member
    simp [zero d member,same]
  · rw [List.filter_eq_nil_iff]
    intro d member
    simpa [zero d member] using Ne.symm same

theorem keepsById_of_zero (past : List (FullDatagram .bindRequest))
    (zero : ∀ d ∈ past, d.transactionId = 0) : KeepsById past := by
  intro k
  rw [clientMap_run,filter_of_zero past zero]
  by_cases same : k = 0 <;> simp [same]

theorem introducesById_of_zero (past : List (FullDatagram .bindRequest))
    (d : FullDatagram .bindRequest) (zero : ∀ e ∈ past ++ [d], e.transactionId = 0) :
    IntroducesById past d := by
  intro x sent typed
  rw [show servePlain = serve (fun d : FullDatagram .bindRequest => d.toReceived) from rfl,serve,
    (handle_bindRequest _ d).2,plainHandle] at sent
  have acked : (ackPlain d.source).message.type ≠ some .bindReply := by
    simp [ackPlain,ackMessage]
  have last := clientMap_run past 0
  cases found : (run servePlain init past).transactionClientMap 0 with
  | none =>
    simp only [found,List.mem_singleton] at sent
    exact absurd typed (sent ▸ acked)
  | some copeer =>
    rw [found] at last
    split_ifs at last
    · obtain ⟨c,latest,same⟩ := Option.map_eq_some_iff.mp last.symm
      have member := List.mem_of_getLast? latest
      have ids : c.transactionId = d.transactionId := by
        rw [zero c (by simp [member]),zero d (by simp)]
      simp only [found,List.mem_cons,List.not_mem_nil,or_false] at sent
      rcases sent with rfl | rfl | rfl
      · exact absurd typed acked
      · exact ⟨d,by simp,c,by simp [member],ids.symm,rfl,by simp [same]⟩
      · exact ⟨c,by simp [member],d,by simp,ids,same.symm,by simp⟩

/-- A run pairs by transaction id exactly when every request carries id zero. -/
theorem pairsById_iff_zero (ds : List (FullDatagram .bindRequest)) :
    PairsById ds ↔ ∀ d ∈ ds, d.transactionId = 0 := by
  constructor
  · rintro ⟨keeps,_⟩ d member
    obtain ⟨past,rest,rfl⟩ := List.append_of_mem member
    exact zero_of_keepsById past d (keeps past ⟨d :: rest,rfl⟩)
      (keeps (past ++ [d]) ⟨rest,by simp⟩)
  · intro zero
    constructor
    · rintro past ⟨rest,rfl⟩
      exact keepsById_of_zero past (fun d member => zero d (by simp [member]))
    · rintro past d rest rfl
      apply introducesById_of_zero
      intro e member
      apply zero
      rcases List.mem_append.mp member with inside | last
      · simp [inside]
      · simp [List.mem_singleton.mp last]

def mixedIds : List (FullDatagram .bindRequest) :=
  [.ofRequest .bindRequest 1 ⟨1,10⟩ .first 0,.ofRequest .bindRequest 2 ⟨2,20⟩ .first 1]

theorem mixedIds_not_pairsById : ¬PairsById mixedIds := by
  intro paired
  have zero := zero_of_keepsById [] (.ofRequest .bindRequest 1 ⟨1,10⟩ .first 0)
    (paired.1 [] (List.nil_prefix)) (paired.1 _ ⟨[.ofRequest .bindRequest 2 ⟨2,20⟩ .first 1],rfl⟩)
  exact absurd zero (by decide)

end P2pStun.UdpServer
