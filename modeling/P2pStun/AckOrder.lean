import P2pStun.ToldApart

/-! The order of the server's ack and its reply. In the receive loop the ack is ignored, so
the two may come in either order. While `connect` still waits for the ack, the first of them
is taken for it unread: a reply that comes first is lost. -/
namespace P2pStun
open Runs

def ServedBy (servers : List Address) (type : MessageType) (e : ReceiveStep) : Prop :=
  FullLength e ∧ ∃ d, e.outcome = .datagram d ∧ d.payload.type = some type ∧
    ∃ server ∈ servers, d.source = server.endpoint

theorem ServedBy.carries {servers : List Address} {type : MessageType} {e : ReceiveStep}
    (served : ServedBy servers type e) : e.outcome.carries = true := by
  obtain ⟨-,d,found,typed,-⟩ := served
  cases content : d.payload with
  | nil => simp [content,Payload.type] at typed
  | cons b rest => simp [found,RecvOutcome.carries,content]

theorem servedBy_arrives {servers : List Address} {server : Address} (member : server ∈ servers)
    {message : Message} {type : MessageType} (typed : message.type = some type) :
    ServedBy servers type (arrives message server.endpoint) :=
  ⟨fullLength_arrives message server.endpoint,_,rfl,(Payload.type_ofMessage message).trans typed,
    server,member,rfl⟩

theorem handlingOf_ack {reply : MessageType} {known : SockaddrIn → Prop} [DecidablePred known] {id : UInt32}
    {k : Connecting} {servers : List Address} {e : ReceiveStep} (other : MessageType.ack ≠ reply)
    (acks : ServedBy servers .ack e) : handlingOf reply known id k e.outcome = .ignored := by
  obtain ⟨-,d,found,typed,-⟩ := acks
  simp [found,handlingOf,typed,other]

section Orders

variable {S E : Type} (m : Machine S E Outgoing) (view : S → Connecting)

def OrderIrrelevant (s : S) (past : List E) (x y : E) (rest : List E) : Prop :=
  SameOutcome (view (run m s (past ++ x :: y :: rest))) (view (run m s (past ++ y :: x :: rest))) ∧
    outputs m s (past ++ x :: y :: rest) = outputs m s (past ++ y :: x :: rest)

instance (s : S) (past : List E) (x y : E) (rest : List E) :
    Decidable (OrderIrrelevant m view s past x y rest) := inferInstanceAs (Decidable (_ ∧ _))

variable {m view} {R : S → S → Prop} {reads : S → S → E → Prop} {passes : S → E → Prop}

theorem taken_same (self : ∀ s e, reads s s e) (s : S) (events : List E) :
    Along (beside m m) (TakenAlike reads) (s,s) (events.map .same) := by
  induction events generalizing s with
  | nil => trivial
  | cons e events ih => exact ⟨⟨rfl,self s e⟩,ih (m s e).1⟩

theorem taken_exchanged (self : ∀ s e, reads s s e) (s : S) (past : List E) (x y : E) (rest : List E)
    (whole : ∀ e ∈ y :: rest, ∀ s t, reads s t e) :
    Along (beside m m) (TakenAlike reads) (s,s) (exchanged past x y rest) := by
  have later (u : S × S) : Along (beside m m) (TakenAlike reads) u (rest.map .same) := by
    apply along_of_forall
    intro z member t
    obtain ⟨e,inside,rfl⟩ := List.mem_map.mp member
    exact ⟨rfl,whole e (List.mem_cons_of_mem y inside) t.1 t.2⟩
  rw [exchanged,along_append,run_beside,lefts_same,rights_same]
  exact ⟨taken_same self s past,trivial,⟨rfl,whole y List.mem_cons_self _ _⟩,trivial,later _⟩

theorem orderIrrelevant_iff (symm : ∀ s t, R s t → R t s) (self : ∀ s, R s s)
    (both : ∀ s t e, R s t → reads s t e → R (m s e).1 (m t e).1 ∧ (m s e).2 = (m t e).2)
    (passed : ∀ s t e, R s t → passes s e → R (m s e).1 t ∧ (m s e).2 = [])
    (ends : ∀ s t, R s t → SameEnd (view s) (view t)) (readSame : ∀ s e, reads s s e)
    {quiet request : E} (probes : Probes m view quiet request) (s : S) (past : List E) (x y : E)
    (whole : ∀ e ∈ [y,quiet,request], ∀ s t, reads s t e)
    (entered : ∀ s, Entered (view s) → passes s x ∧ Entered (view (m s y).1))
    (lost : ¬Entered (view (run m s past)) → ∃ n,
      Fails n (view (run m s (past ++ [x,y]))) ∧ Lasts n (view (run m s (past ++ [y,x])))) :
    (∀ rest, Along (beside m m) (TakenAlike reads) (s,s) (exchanged past x y rest) →
      OrderIrrelevant m view s past x y rest) ↔ Entered (view (run m s past)) := by
  constructor
  · intro irrelevant
    by_contra outside
    obtain ⟨n,fails,lasts⟩ := lost outside
    have taken : Along (beside m m) (TakenAlike reads) (s,s)
        (exchanged past x y (List.replicate n quiet ++ [request])) := by
      apply taken_exchanged readSame
      intro e member
      apply whole
      rcases List.mem_cons.mp member with rfl | later
      · simp
      · rcases List.mem_append.mp later with quietly | last
        · simp [List.eq_of_mem_replicate quietly]
        · simp [List.mem_singleton.mp last]
    have split (a b : E) (rest : List E) : past ++ a :: b :: rest = (past ++ [a,b]) ++ rest := by simp
    have same := (irrelevant _ taken).1.1
    rw [split x y,split y x,run_append s (past ++ [x,y]),run_append s (past ++ [y,x])] at same
    exact told_apart probes fails lasts same
  · intro inside rest taken
    have after : Entered (view (run m s (past ++ [y]))) := by
      rw [run_concat]
      exact (entered _ inside).2
    have agreed : Agreed m m R some s s (exchanged past x y rest) :=
      exchanged_agreed symm both passed self s past x y rest (entered _ inside).1 (entered _ after).1 taken
    rw [Agreed,lefts_exchanged,rights_exchanged,List.filterMap_some,List.filterMap_some] at agreed
    exact ⟨(ends _ _ agreed.1).sameOutcome,agreed.2⟩

end Orders

/-- While the ack is awaited the loop is not entered, and afterwards it stays so. -/
def Placed (k : Connecting) : Prop := (∃ second, k.progress = .awaitAck second) ∨ Entered k

namespace P2pConnector

variable (c : P2pConnector)

theorem connect_placed (k : Connecting) (e : ReceiveStep) (placed : Placed k) : Placed (c.connect k e).1 := by
  rcases placed with ⟨second,waits⟩ | entered
  · rw [c.connect_awaitAck k e second waits]
    right
    cases e.outcome.carries with
    | true => exact Or.inl ⟨10,by decide,rfl⟩
    | false => exact Or.inr ⟨_,rfl⟩
  · exact Or.inr (c.connect_counts k e entered).1

theorem run_placed (socket : UdpSocket) (sendOk : Bool) (past : List ReceiveStep) :
    Placed (run c.connect (c.start socket sendOk).1 past) := by
  have start : Placed (c.start socket sendOk).1 := by
    cases sendOk with
    | true => exact Or.inl ⟨false,rfl⟩
    | false => exact Or.inr (Or.inr ⟨_,rfl⟩)
  exact history_invariant (fun _ k => Placed k) start (fun past e before => c.connect_placed _ e before) past

theorem handling_reply (k : Connecting) (e : ReceiveStep)
    (replies : ServedBy [c.stunServerAddress] .bindReply e) : c.handling k e.outcome = .replied := by
  obtain ⟨whole,d,found,typed,server,member,source⟩ := replies
  rw [List.mem_singleton] at member
  have host : SameHost (k.took d).socket.peerAddress c.stunServerAddr := by
    rw [took_peerAddress k d (whole d found).2,source,member]
    exact ⟨rfl,rfl⟩
  simp [found,handling,handlingOf,typed,host]

theorem handling_ack (k : Connecting) (e : ReceiveStep) (servers : List Address)
    (acks : ServedBy servers .ack e) : c.handling k e.outcome = .ignored := handlingOf_ack nofun acks

theorem passes_ack (k : Connecting) (e : ReceiveStep) (servers : List Address)
    (acks : ServedBy servers .ack e) (entered : Entered k) : c.Passes k e := by
  unfold Passes
  rcases entered with ⟨n,positive,receiving⟩ | ⟨r,returned⟩
  · rw [receiving]
    exact ⟨Nat.pos_iff_ne_zero.mp positive,c.handling_ack k _ servers acks⟩
  · simp only [returned]

theorem awaitAck_order (k : Connecting) (second : Bool) (waits : k.progress = .awaitAck second)
    (ack reply : ReceiveStep) (servers : List Address) (acks : ServedBy servers .ack ack)
    (replies : ServedBy [c.stunServerAddress] .bindReply reply) :
    Fails 3 (run c.connect k [ack,reply]) ∧ Lasts 3 (run c.connect k [reply,ack]) := by
  simp only [run_cons,run_nil,c.connect_awaitAck k _ second waits,acks.carries,replies.carries,if_true]
  rw [c.connect_receiving _ 10 reply rfl,c.connect_receiving _ 10 ack rfl,
    c.handling_reply _ reply replies,c.handling_ack _ ack servers acks]
  constructor
  · exact fails_again 3 (by simp)
  · exact ⟨10,by decide,rfl⟩

end P2pConnector

namespace P2pPsConnector

variable {fpu : FloatUnit} (c : P2pPsConnector)

theorem connect_placed (k : PsConnecting) (e : PsStep fpu) (placed : Placed k.toConnecting) :
    Placed (c.connect k e).1.toConnecting := by
  rcases placed with ⟨second,waits⟩ | entered
  · cases second with
    | false =>
      rw [c.connect_awaitFirst k e waits]
      cases e.outcome.carries with
      | false => exact Or.inr (Or.inr ⟨_,rfl⟩)
      | true =>
        rcases c.secondRequest_waits (heard k e.outcome) e with again | ended
        · exact Or.inl ⟨true,again⟩
        · exact Or.inr (Or.inr ⟨_,ended⟩)
    | true =>
      rw [c.connect_awaitSecond k e waits]
      right
      cases e.outcome.carries with
      | true => exact Or.inl ⟨5,by decide,rfl⟩
      | false => exact Or.inr ⟨_,rfl⟩
  · exact Or.inr (c.connect_counts k e entered).1

theorem handling_reply (k : PsConnecting) (e : ReceiveStep)
    (replies : ServedBy [c.stunServerAddress1,c.stunServerAddress2] .psBindReply e) :
    c.handling k e.outcome = .replied := by
  obtain ⟨whole,d,found,typed,server,member,source⟩ := replies
  have host : c.FromServer (k.took d).socket.peerAddress := by
    rw [took_peerAddress k.toConnecting d (whole d found).2,source]
    rcases List.mem_pair.mp member with rfl | rfl
    · exact Or.inr rfl
    · exact Or.inl rfl
  simp [found,handling,handlingOf,typed,host]

theorem handling_ack (k : PsConnecting) (e : ReceiveStep) (servers : List Address)
    (acks : ServedBy servers .ack e) : c.handling k e.outcome = .ignored := handlingOf_ack nofun acks

theorem passes_ack (k : PsConnecting) (e : PsStep fpu) (servers : List Address)
    (acks : ServedBy servers .ack e.toReceiveStep) (entered : Entered k.toConnecting) : c.Passes k e := by
  unfold Passes
  rcases entered with ⟨n,positive,receiving⟩ | ⟨r,returned⟩
  · rw [receiving]
    exact ⟨Nat.pos_iff_ne_zero.mp positive,c.handling_ack k _ servers acks⟩
  · simp only [returned]

theorem awaitAck_order (k : PsConnecting) (waits : k.progress = .awaitAck true) (ack reply : PsStep fpu)
    (servers : List Address) (acks : ServedBy servers .ack ack.toReceiveStep)
    (replies : ServedBy [c.stunServerAddress1,c.stunServerAddress2] .psBindReply reply.toReceiveStep) :
    Fails 1 (run c.connect k [ack,reply]).toConnecting ∧
      Lasts 1 (run c.connect k [reply,ack]).toConnecting := by
  simp only [run_cons,run_nil,c.connect_awaitSecond k _ waits,acks.carries,replies.carries,if_true]
  rw [c.connect_receiving _ 5 reply rfl,c.connect_receiving _ 5 ack rfl,
    c.handling_reply _ _ replies,c.handling_ack _ _ servers acks]
  constructor
  · simp only [handled]
    split
    · refine fails_again 1 ?_
      rw [c.tryStartPsConnection_state,heard,heard_state]
      simp
    · exact .failed .connectionFailed rfl (by decide)
  · exact ⟨5,by decide,rfl⟩

theorem run_placed (socket : UdpSocket) (portman : PortManager) (draw : Draw fpu) (sendOk : Bool)
    (past : List (PsStep fpu)) :
    Placed (run c.connect (c.start socket portman draw sendOk).1 past).toConnecting := by
  have start : Placed (c.start socket portman draw sendOk).1.toConnecting := by
    cases sendOk with
    | true => exact Or.inl ⟨false,rfl⟩
    | false => exact Or.inr (Or.inr ⟨_,rfl⟩)
  exact history_invariant (fun _ (k : PsConnecting) => Placed k.toConnecting) start
    (fun past e before => c.connect_placed _ e before) past

end P2pPsConnector

/-- Whatever rounds come before, the server's ack of the last request and its reply may come
in either order, with any later rounds that read the same, exactly if the receive loop was
entered before them. -/
theorem ackOrder_irrelevant_iff (socket : UdpSocket) (sendOk : Bool)
    (c : P2pConnector) (past : List ReceiveStep) (ack reply : ReceiveStep)
    (acks : ServedBy [c.stunServerAddress] .ack ack)
    (replies : ServedBy [c.stunServerAddress] .bindReply reply)
    (fpu : FloatUnit) (p : P2pPsConnector) (portman : PortManager) (draw : Draw fpu)
    (psPast : List (PsStep fpu)) (psAck psReply : PsStep fpu)
    (psAcks : ServedBy [p.stunServerAddress1,p.stunServerAddress2] .ack psAck.toReceiveStep)
    (psReplies : ServedBy [p.stunServerAddress1,p.stunServerAddress2] .psBindReply psReply.toReceiveStep)
    (requested : (run p.connect (p.start socket portman draw sendOk).1 psPast).progress ≠ .awaitAck false) :
    let s := (c.start socket sendOk).1
    let t := (p.start socket portman draw sendOk).1
    ((∀ rest, Along (beside c.connect c.connect) (TakenAlike fun k j e => P2pConnector.ReadAlike k j e e) (s,s)
        (exchanged past ack reply rest) → OrderIrrelevant c.connect id s past ack reply rest) ↔
      Entered (run c.connect s past)) ∧
    ((∀ rest, Along (beside p.connect p.connect) (TakenAlike fun k j e => P2pPsConnector.ReadAlike k j e e) (t,t)
        (exchanged psPast psAck psReply rest) →
          OrderIrrelevant p.connect (·.toConnecting) t psPast psAck psReply rest) ↔
      Entered (run p.connect t psPast).toConnecting) := by
  intro s t
  constructor
  · have whole : ∀ e ∈ [reply,quiet,requestOf c.transactionId ⟨0,0⟩], FullLength e := by
      simp [replies.1,fullLength_quiet,requestOf,fullLength_arrives]
    refine orderIrrelevant_iff (fun _ _ alike => alike.symm) alike_self c.connect_taken c.connect_passes
      (fun _ _ alike => alike.sameEnd) (fun _ _ _ => rfl) (c.probes ⟨0,0⟩) s past ack reply
      (fun e member k j _ => readingOf_whole k j e (whole e member))
      (fun k entered => ⟨c.passes_ack k ack _ acks entered,(c.connect_counts k reply entered).1⟩) ?_
    intro outside
    rcases c.run_placed socket sendOk past with ⟨second,waits⟩ | entered
    · rw [run_append,run_append]
      exact ⟨3,c.awaitAck_order _ second waits ack reply _ acks replies⟩
    · exact absurd entered outside
  · have whole : ∀ e ∈ [psReply,P2pPsConnector.finds psReply quiet,
        P2pPsConnector.finds psReply (requestOf p.transactionId ⟨0,0⟩)], FullLength e.toReceiveStep := by
      simp [psReplies.1,P2pPsConnector.finds,fullLength_quiet,requestOf,fullLength_arrives]
    refine orderIrrelevant_iff (fun _ _ alike => alike.symm) psAlike_self p.connect_taken p.connect_passes
      (fun _ _ alike => alike.sameEnd) (fun _ _ _ => rfl) (p.probes psReply ⟨0,0⟩) t psPast psAck psReply
      (fun e member k j _ => readingOf_whole k.toConnecting j.toConnecting e.toReceiveStep (whole e member))
      (fun k entered => ⟨p.passes_ack k psAck _ psAcks entered,(p.connect_counts k psReply entered).1⟩) ?_
    intro outside
    rcases p.run_placed socket portman draw sendOk psPast with ⟨second,waits⟩ | entered
    · cases second with
      | false => exact absurd waits requested
      | true =>
        rw [run_append,run_append]
        exact ⟨1,p.awaitAck_order _ waits psAck psReply _ psAcks psReplies⟩
    · exact absurd entered outside

/-- A reply that comes before the ack is lost, and no datagram is sent to the peer. -/
theorem replyFirst_not_irrelevant :
    let c : P2pConnector := ⟨⟨1,10⟩,7⟩
    let s := (c.start .create true).1
    let waits := List.replicate 10 quiet
    let usual := ackOf ⟨1,10⟩ :: bindReplyOf ⟨1,10⟩ ⟨9,90⟩ :: waits
    let swapped := bindReplyOf ⟨1,10⟩ ⟨9,90⟩ :: ackOf ⟨1,10⟩ :: waits
    ¬OrderIrrelevant c.connect id s [] (ackOf ⟨1,10⟩) (bindReplyOf ⟨1,10⟩ ⟨9,90⟩) waits ∧
      (run c.connect s usual).progress = .returned .connectionFailed ∧
      (run c.connect s swapped).progress = .returned .connectionFailedNoServerMatchInTime ∧
      (outputs c.connect s usual).length = 4 ∧ outputs c.connect s swapped = [] := by
  decide +kernel

theorem ackOrder_irrelevant_later :
    let c : P2pConnector := ⟨⟨1,10⟩,7⟩
    let p : P2pPsConnector := ⟨⟨1,10⟩,⟨1,11⟩,7,false⟩
    let s := (c.start .create true).1
    let t := (p.start .create .plain .plain true).1
    let psPast := [readably (ackOf ⟨1,10⟩),readably (ackOf ⟨1,11⟩)]
    OrderIrrelevant c.connect id s [ackOf ⟨1,10⟩] (ackOf ⟨1,10⟩) (bindReplyOf ⟨1,10⟩ ⟨9,90⟩)
        [requestOf 7 ⟨9,90⟩] ∧
      OrderIrrelevant p.connect (·.toConnecting) t psPast (readably (ackOf ⟨1,11⟩))
        (readably (steadyReply ⟨1,10⟩ ⟨9,90⟩)) [readably (requestOf 7 ⟨9,90⟩)] := by
  intro c p s t psPast
  have both := ackOrder_irrelevant_iff .create true c [ackOf ⟨1,10⟩] (ackOf ⟨1,10⟩)
    (bindReplyOf ⟨1,10⟩ ⟨9,90⟩) (servedBy_arrives (by decide) (by decide))
    (servedBy_arrives (by decide) (by decide)) .exact p .plain .plain psPast (readably (ackOf ⟨1,11⟩))
    (readably (steadyReply ⟨1,10⟩ ⟨9,90⟩)) (servedBy_arrives (by decide) (by decide))
    (servedBy_arrives (by decide) (by decide)) (by decide +kernel)
  constructor
  · apply both.1.mpr (Or.inl ⟨10,by decide,by decide +kernel⟩)
    apply taken_exchanged (fun _ _ _ => rfl)
    intro e member k j _
    apply readingOf_whole k j e
    rcases List.mem_pair.mp member with rfl | rfl
    · exact fullLength_arrives _ _
    · exact fullLength_arrives _ _
  · apply both.2.mpr (Or.inl ⟨5,by decide,by decide +kernel⟩)
    apply taken_exchanged (fun _ _ _ => rfl)
    intro e member k j _
    apply readingOf_whole k.toConnecting j.toConnecting e.toReceiveStep
    rcases List.mem_pair.mp member with rfl | rfl
    · exact fullLength_arrives _ _
    · exact fullLength_arrives _ _

end P2pStun
