import P2pStun.PlainRendezvous

/-! Repeated plain requests. The endpoint that waits under id zero is never compared
with the sender of the next request, so a duplicate that arrives next is paired with
its own original. -/
namespace P2pStun.UdpServer
open Runs

structure PlainDatagram extends Received where
  typed : payload.type = some .bindRequest

theorem PlainDatagram.buffer_type (d : PlainDatagram) (s : UdpServer) :
    (s.buffer d.toReceived).type = some .bindRequest := by
  have nonempty : d.payload ≠ [] := by
    intro empty
    have typed := d.typed
    simp [empty,Payload.type] at typed
  rw [buffer,Message.type_received _ _ nonempty,d.typed]

def IntroducesOthers (sent : List Sent) : Prop :=
  ∀ x ∈ sent, x.message.type = some .bindReply → x.message.bindReply ≠ x.dest

/-- The first and the second request of a run, the third and the fourth, and so on
come from different endpoints. -/
def PairedApart : List PlainDatagram → Prop
  | a :: b :: rest => a.source ≠ b.source ∧ PairedApart rest
  | _ => True

abbrev serveRepeats : Machine UdpServer PlainDatagram Sent := serve (fun d => d.toReceived)

theorem serveRepeats_plain (s : UdpServer) (d : PlainDatagram) :
    (serveRepeats s d).1.transactionClientMap = (plainHandle s.transactionClientMap d.source).1 ∧
      (serveRepeats s d).2 = (plainHandle s.transactionClientMap d.source).2 :=
  handle_plain (d.buffer_type s)

theorem plainHandle_waits (map : ClientMap) (source : Endpoint) (empty : map 0 = none) :
    (plainHandle map source).1 0 = some source.sockaddr ∧
      IntroducesOthers (plainHandle map source).2 := by
  simp only [plainHandle,empty]
  refine ⟨Function.update_self _ _ _,?_⟩
  intro x sent typed
  rw [List.mem_singleton.mp sent] at typed
  simp [ackPlain,ackMessage] at typed

theorem plainHandle_pairs (map : ClientMap) (waiting source : Endpoint)
    (stored : map 0 = some waiting.sockaddr) :
    (plainHandle map source).1 0 = none ∧
      (IntroducesOthers (plainHandle map source).2 ↔ waiting ≠ source) := by
  simp only [plainHandle,stored]
  refine ⟨Function.update_self _ _ _,?_⟩
  constructor
  · intro others same
    have toSource := others ⟨.first,source.sockaddr,bindReplyMessage waiting.sockaddr⟩ (by simp)
      (bindReplyMessage_type _)
    rw [bindReplyMessage_bindReply] at toSource
    exact toSource (congrArg Endpoint.sockaddr same)
  · intro apart x sent typed
    simp only [List.mem_cons,List.not_mem_nil,or_false] at sent
    rcases sent with rfl | rfl | rfl
    · simp [ackPlain,ackMessage] at typed
    · rw [bindReplyMessage_bindReply]
      exact fun same => apart (Endpoint.sockaddr_injective same)
    · rw [bindReplyMessage_bindReply]
      exact fun same => apart (Endpoint.sockaddr_injective same).symm

theorem introducesOthers_from (ds : List PlainDatagram) (s : UdpServer)
    (empty : s.transactionClientMap 0 = none) :
    Along serveRepeats (fun s d => IntroducesOthers (serveRepeats s d).2) s ds ↔ PairedApart ds := by
  induction ds using PairedApart.induct generalizing s with
  | case1 a b rest ih =>
    obtain ⟨stored,sentA⟩ := serveRepeats_plain s a
    obtain ⟨paired,sentB⟩ := serveRepeats_plain (serveRepeats s a).1 b
    obtain ⟨waits,quiet⟩ := plainHandle_waits s.transactionClientMap a.source empty
    rw [← stored] at waits
    obtain ⟨free,others⟩ := plainHandle_pairs _ a.source b.source waits
    rw [← paired] at free
    rw [along_cons,along_cons,ih _ free,PairedApart,sentA,sentB,others]
    exact and_iff_right quiet
  | case2 ds short =>
    cases ds with
    | nil => simp [PairedApart]
    | cons a rest =>
      cases rest with
      | nil =>
        have quiet := (plainHandle_waits s.transactionClientMap a.source empty).2
        rw [← (serveRepeats_plain s a).2] at quiet
        exact iff_of_true ⟨quiet,trivial⟩ trivial
      | cons b rest => exact absurd rfl (short a b rest)

/-- No client is introduced to itself exactly when the requests that are paired come
from different endpoints. -/
theorem introducesOthers_iff (ds : List PlainDatagram) :
    Along serveRepeats (fun s d => IntroducesOthers (serveRepeats s d).2) init ds ↔ PairedApart ds :=
  introducesOthers_from ds init rfl

def duplicated : List PlainDatagram :=
  let d : FullDatagram .bindRequest := .ofRequest .bindRequest 7 ⟨1,10⟩ .first 0
  [⟨d.toReceived,d.typed⟩,⟨d.toReceived,d.typed⟩]

theorem duplicated_not_introducesOthers :
    ¬Along serveRepeats (fun s d => IntroducesOthers (serveRepeats s d).2) init duplicated := by
  rw [introducesOthers_from duplicated init rfl]
  exact fun apart => apart.1 rfl

end P2pStun.UdpServer
