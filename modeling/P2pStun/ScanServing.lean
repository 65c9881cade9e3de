import P2pStun.ScanDeliveries
import P2pStun.PsFiling

/-! Steps of the server of a network in which a couple looks for each other: requests of
the two fill their record, and what others send leaves it alone. -/
namespace P2pStun.Couple
open Runs Handshake ScanDeployment UdpServer

variable {ι : Type} {d : ScanDeployment ι} {c : Couple d} {fpu : FloatUnit}
  {net : ScanNetwork ι} {es : List Bool} {flight before after : List Packet} {p : Packet} {b : Bool}

section Records

variable {map : PsMap} {req : PsRequest} {t : PsTransaction} {a : Bool}

theorem not_introduced_again (first : (es ++ [a]).head? = some a) : ¬Introduced (es ++ [a]) := by
  rintro ⟨_,different⟩
  rw [first,List.getLast?_concat] at different
  exact different rfl

theorem head_append (first : es.head? = some a) : (es ++ [b]).head? = some a := by
  cases es with
  | nil => contradiction
  | cons x rest => exact first

theorem filed_opened (req : PsRequest) (source : req.source = c.home b) (time : UInt64) :
    c.Filed (.create req.source.sockaddr time) [b] b where
  cl1Sk1 := by rw [source]; rfl
  cl1Sk2 := by simp [PsTransaction.create,SockaddrIn.zero]
  unopened _ := rfl
  cl2Sk1 some_ := absurd some_ (by simp)
  cl2Sk2 := by simp [PsTransaction.create,SockaddrIn.zero]

theorem filed_own (req : PsRequest) (source : req.source = c.home a) (filed : c.Filed t es a)
    (once : es.count a = 1) : t.slot req.source.addr = .cl1Port2 ∧ c.Filed (t.add req) (es ++ [a]) a := by
  have slot : t.slot req.source.addr = .cl1Port2 := by
    rw [PsTransaction.slot_cl1Port2,filed.cl1Sk1,source]
    rfl
  have routed : req.source.addr ≠ 0 := source ▸ (c.routed a).1
  have others : (es ++ [a]).count (!a) = es.count (!a) := by simp
  refine ⟨slot,?_⟩
  rw [PsTransaction.add_cl1Port2 slot]
  constructor
  case cl1Sk1 => exact filed.cl1Sk1
  case cl1Sk2 => simp [once,routed]
  case unopened =>
    rw [others]
    exact filed.unopened
  case cl2Sk1 =>
    rw [others]
    exact filed.cl2Sk1
  case cl2Sk2 =>
    rw [others]
    exact filed.cl2Sk2

theorem filed_other (req : PsRequest) (source : req.source = c.home !a) (filed : c.Filed t es a)
    (few : es.count (!a) ≤ 1) : t.slot req.source.addr ≠ .cl1Port2 ∧ c.Filed (t.add req) (es ++ [!a]) a ∧
      ((t.add req).complete ↔ es.count (!a) = 1 ∧ es.count a = 2) := by
  have elsewhere : t.cl1Sk1.sinAddr ≠ req.source.addr := by
    rw [filed.cl1Sk1,source]
    exact (c.addr_ne a).symm
  have routed : req.source.addr ≠ 0 := source ▸ (c.routed !a).1
  have own : (es ++ [!a]).count (!a) = es.count (!a) + 1 := by simp
  have others : (es ++ [!a]).count a = es.count a := by simp
  refine ⟨fun slot => elsewhere ((t.slot_cl1Port2 _).mp slot),?_⟩
  by_cases once : es.count (!a) = 1
  · have known := filed.cl2Sk1 (by omega)
    have slot : t.slot req.source.addr = .cl2Port2 := by
      rw [PsTransaction.slot_cl2Port2,known,source]
      exact ⟨source ▸ elsewhere,(c.routed !a).1,rfl⟩
    rw [PsTransaction.add_cl2Port2 slot]
    refine ⟨⟨filed.cl1Sk1,?_,?_,fun _ => known,?_⟩,?_⟩
    · rw [others]
      exact filed.cl1Sk2
    · rw [own]
      intro zero
      omega
    · rw [own,once]
      exact iff_of_true routed rfl
    · rw [PsTransaction.complete,← filed.cl1Sk2]
      exact and_congr_left fun _ => iff_of_true routed once
  · have zero : es.count (!a) = 0 := by omega
    have slot : t.slot req.source.addr = .cl2Port1 :=
      (t.slot_cl2Port1 _).mpr ⟨elsewhere,filed.unopened zero⟩
    have never : ¬t.cl2Sk2.sinAddr ≠ 0 := fun some_ => absurd (filed.cl2Sk2.mp some_) (by omega)
    rw [PsTransaction.add_cl2Port1 slot]
    refine ⟨⟨filed.cl1Sk1,?_,?_,?_,?_⟩,?_⟩
    · rw [others]
      exact filed.cl1Sk2
    · rw [own]
      intro none_
      omega
    · exact fun _ => congrArg Endpoint.sockaddr source
    · rw [own]
      exact iff_of_false never (by omega)
    · exact iff_of_false (fun both => never both.1) fun both => once both.1

/-- A request either fills the record further, or it is the last one and the record is answered. -/
theorem request_filed (req : PsRequest) (own : req.transactionId = c.id) (source : req.source = c.home b)
    (few : es.count b ≤ 1) (few' : es.count (!b) ≤ 2)
    (timely : ∀ t, map c.id = some t → ¬t.expired req.clock1)
    (vacant : es = [] → map c.id = none)
    (filed : ∀ a, es.head? = some a → ∃ t, map c.id = some t ∧ c.Filed t es a) :
    (¬Introduced (es ++ [b]) ∧ (psHandle map req).2 = [ack req] ∧
      ∀ a, (es ++ [b]).head? = some a → ∃ t, (psHandle map req).1 c.id = some t ∧ c.Filed t (es ++ [b]) a) ∨
    (Introduced (es ++ [b]) ∧ es.count b = 1 ∧ es.count (!b) = 2 ∧ (psHandle map req).1 c.id = none ∧
      ∃ t, (psHandle map req).2 = ack req :: replies t ∧ t.cl1Sk1 = (c.home !b).sockaddr ∧
        t.cl2Sk1 = (c.home b).sockaddr) := by
  cases first : es.head? with
  | none =>
    obtain rfl := List.head?_eq_none_iff.mp first
    have dead : live map req = none := by rw [live,own,vacant rfl]; rfl
    rw [psHandle_opened dead,own]
    refine Or.inl ⟨not_introduced_again rfl,rfl,fun a head => ⟨_,Function.update_self _ _ _,?_⟩⟩
    obtain rfl : b = a := Option.some.inj head
    exact filed_opened req source _
  | some a =>
    obtain ⟨t,stored,filed⟩ := filed a first
    have alive : live map req = some t := (live_eq_some map req t).mpr ⟨own ▸ stored,timely t stored⟩
    have head := head_append (b := b) first
    have kept (pending : ¬matched t req) (later : c.Filed (t.add req) (es ++ [b]) a) :
        (psHandle map req).2 = [ack req] ∧
          ∀ x, (es ++ [b]).head? = some x → ∃ t, (psHandle map req).1 c.id = some t ∧ c.Filed t (es ++ [b]) x := by
      rw [psHandle_kept alive pending,own]
      refine ⟨rfl,fun x head' => ⟨_,Function.update_self _ _ _,?_⟩⟩
      rw [← Option.some.inj (head.symm.trans head')]
      exact later
    by_cases same : b = a
    · subst b
      have once : es.count a = 1 := by
        have : 0 < es.count a := List.count_pos_iff.mpr (List.mem_of_head? first)
        omega
      obtain ⟨slot,later⟩ := filed_own req source filed once
      exact Or.inl ⟨not_introduced_again head,kept (fun done => done.1 slot) later⟩
    · obtain rfl := Bool.eq_not.mpr same
      rw [Bool.not_not] at few'
      obtain ⟨slot,later,complete⟩ := filed_other req source filed few
      by_cases last : es.count (!a) = 1 ∧ es.count a = 2
      · have done : matched t req := ⟨slot,complete.mpr last⟩
        have twice (x : Bool) : (es ++ [!a]).count x = 2 := by
          by_cases which : x = a
          · subst x
            simp [last.2]
          · obtain rfl := Bool.eq_not.mpr which
            simp [last.1]
        rw [psHandle_matched alive done,own,Bool.not_not]
        refine Or.inr ⟨⟨twice,?_⟩,last.1,last.2,Function.update_self _ _ _,_,rfl,?_,?_⟩
        · rw [head,List.getLast?_concat]
          simp
        · rw [later.cl1Sk1]
        · exact later.cl2Sk1 (by simp)
      · have pending : ¬matched t req := fun done => last (complete.mp done.2)
        refine Or.inl ⟨?_,kept pending later⟩
        rintro ⟨twice,_⟩
        have first_twice := twice a
        have other_twice := twice !a
        simp only [List.count_append,List.count_singleton_self] at other_twice
        exact last ⟨by omega,by simpa using first_twice⟩

end Records

section Requests

theorem inbox_sentByServer (x : Sent) (rest : List Sent) (e : Endpoint) :
    inbox d.servers (d.sentByServer (x :: rest)) e =
      (if x.dest.endpoint = e then [x.message.type] else []) ++ inbox d.servers (d.sentByServer rest) e := by
  have server : d.server x.socket ∈ d.servers := (d.mem_servers _).mpr ⟨x.socket,rfl⟩
  by_cases same : x.dest.endpoint = e
  · simp [inbox,Handshake.FromServer,sentByServer,server,same]
  · simp [inbox,Handshake.FromServer,sentByServer,same]

theorem inbox_sentByServer_nil (e : Endpoint) : inbox d.servers (d.sentByServer []) e = [] := rfl

theorem asks_server (sent : List Sent) (b : Bool) : c.asks (d.sentByServer sent) b = [] := by
  apply asks_nil
  rintro q member ⟨source,_⟩
  obtain ⟨x,_,rfl⟩ := List.mem_map.mp member
  exact c.home_not_server b ((d.mem_servers _).mpr ⟨x.socket,source.symm⟩)

structure Asking (c : Couple d) (net : ScanNetwork ι) (es : List Bool) (b : Bool) (p : Packet)
    (before after : List Packet) : Prop where
  going : c.Going net es
  split : net.flight = before ++ p :: after
  source : p.src = c.home b
  typed : p.payload.type = some .psBindRequest

namespace Asking

variable (asking : Asking c net es b p before after)

include asking

theorem asks : c.asks net.flight b = c.asks before b ++ p.dst :: c.asks after b := by
  rw [asking.split]
  simp [Couple.asks,asking.source,asking.typed]

theorem apart : ¬Introduced es := by
  intro introduced
  have none_asks := (asking.going.paired introduced b).1
  rw [asking.asks] at none_asks
  simp at none_asks

theorem stands : (net.client (c.who b)).isSome = true ∧ c.asks (before ++ after) b = [] ∧
    inbox d.servers net.flight (c.home b) = [] ∧
    ((c.stage net b = some .knocking ∧ es.count b = 0) ∨ (c.stage net b = some .asked ∧ es.count b = 1)) := by
  have standing := asking.going.standing asking.apart b
  rw [Stands,asking.asks] at standing
  obtain ⟨called,one,empty,how⟩ := standing.requested (by simp)
  refine ⟨called,?_,empty,how⟩
  rw [asks_append]
  simp only [List.length_append,List.length_cons] at one
  rw [List.eq_nil_of_length_eq_zero (by omega : (c.asks before b).length = 0),
    List.eq_nil_of_length_eq_zero (by omega : (c.asks after b).length = 0),List.append_nil]

theorem asks_other : c.asks (before ++ after) (!b) = c.asks net.flight !b := by
  rw [asking.split,Couple.asks_other]
  rintro ⟨source,_⟩
  rw [asking.source] at source
  exact c.home_ne b source.symm

variable {sent : List Sent}

theorem answer {flight' : List Packet} (left : flight' = before ++ after ++ d.sentByServer sent) :
    Answer d.servers net.flight flight' p before after (d.sentByServer sent) where
  split := asking.split
  left := left
  source := asking.source ▸ c.home_not_server b
  other := by
    intro type between same
    have same := Option.some.inj (asking.typed.symm.trans same)
    rcases between with rfl | rfl <;> contradiction
  own := by
    intro q member
    obtain ⟨x,_,rfl⟩ := List.mem_map.mp member
    exact (d.mem_servers _).mpr ⟨x.socket,rfl⟩

theorem aside_answered (quiet : ∀ x ∈ sent, x.message.type ≠ some .psBindRequest) :
    c.RequestsAside (before ++ after ++ d.sentByServer sent) := by
  intro q member typed a
  rcases List.mem_append.mp member with old | new
  · refine asking.going.aside q ?_ typed a
    rw [asking.split]
    rcases List.mem_append.mp old with early | late
    · exact List.mem_append_left _ early
    · exact List.mem_append_right _ (List.mem_cons_of_mem _ late)
  · obtain ⟨x,sent,rfl⟩ := List.mem_map.mp new
    exact absurd ((Payload.type_ofMessage _).symm.trans typed) (quiet x sent)

variable {r : FullDatagram .psBindRequest} (source : r.source = c.home b)

include source

theorem going_kept (acked : (psHandle net.server.psTransactionClientMap r.psRequest).2 = [ack r.psRequest])
    (apart : ¬Introduced (es ++ [b]))
    (filed : ∀ a, (es ++ [b]).head? = some a →
      ∃ t, (psHandle net.server.psTransactionClientMap r.psRequest).1 c.id = some t ∧ c.Filed t (es ++ [b]) a) :
    c.Going (d.serverStep {net with flight := before ++ after} r.toReceived).1 (es ++ [b]) := by
  obtain ⟨map,sent⟩ := handle_psBindRequest net.server r
  obtain ⟨called,unasked,empty,how⟩ := asking.stands
  have flight : (d.serverStep {net with flight := before ++ after} r.toReceived).1.flight =
      before ++ after ++ d.sentByServer [ack r.psRequest] := by
    rw [serverStep,sent,acked]
  have answer := asking.answer flight
  have mail (a : Bool) : inbox d.servers (d.sentByServer [ack r.psRequest]) (c.home a) =
      if a = b then [some .ack] else [] := by
    rw [inbox_sentByServer,inbox_sentByServer_nil,List.append_nil]
    simp [UdpServer.ack,FullDatagram.psRequest,source,ackMessage,c.home_iff,eq_comm]
  have asked (a : Bool) : c.asks (before ++ after ++ d.sentByServer [ack r.psRequest]) a =
      c.asks (before ++ after) a := by
    rw [asks_append,asks_server,List.append_nil]
  constructor
  case aside =>
    rw [flight]
    exact asking.aside_answered (by simp [UdpServer.ack,ackMessage])
  case standing =>
    intro _ a
    rw [Stands,answer.inbox_answered,mail,flight,asked]
    by_cases same : a = b
    · subst a
      have stays : c.stage (d.serverStep {net with flight := before ++ after} r.toReceived).1 b = c.stage net b := rfl
      rw [if_pos rfl,empty,unasked,stays,List.count_append,List.count_singleton_self]
      have called' : ((d.serverStep {net with flight := before ++ after} r.toReceived).1.client (c.who b)).isSome =
          true := called
      rw [called']
      rcases how with ⟨stage,count⟩ | ⟨stage,count⟩
      · rw [stage,count]
        exact .knocked
      · rw [stage,count]
        exact .asked
    · obtain rfl := Bool.eq_not.mpr same
      have others : (es ++ [b]).count (!b) = es.count (!b) := by simp
      rw [if_neg same,List.append_nil,asking.asks_other,others]
      exact asking.going.standing asking.apart !b
  case silent =>
    intro _ a type between flies
    exact asking.going.silent asking.apart a type between
      ((answer.flies_answered between (c.home_not_server a)).mp flies)
  case paired => exact fun introduced => absurd introduced apart
  case vacant =>
    rintro (none_heard | introduced)
    · simp at none_heard
    · exact absurd introduced apart
  case filed =>
    intro a first _
    rw [serverStep,map]
    exact filed a first

theorem going_matched {t : PsTransaction} (introduced : Introduced (es ++ [b])) (last : es.count b = 1)
    (complete : es.count (!b) = 2)
    (erased : (psHandle net.server.psTransactionClientMap r.psRequest).1 c.id = none)
    (answers : (psHandle net.server.psTransactionClientMap r.psRequest).2 = ack r.psRequest :: replies t)
    (sk1 : t.cl1Sk1 = (c.home !b).sockaddr) (sk2 : t.cl2Sk1 = (c.home b).sockaddr) :
    c.Going (d.serverStep {net with flight := before ++ after} r.toReceived).1 (es ++ [b]) := by
  obtain ⟨map,sent⟩ := handle_psBindRequest net.server r
  obtain ⟨_,unasked,empty,how⟩ := asking.stands
  have flight : (d.serverStep {net with flight := before ++ after} r.toReceived).1.flight =
      before ++ after ++ d.sentByServer (ack r.psRequest :: replies t) := by
    rw [serverStep,sent,answers]
  have answer := asking.answer flight
  have mail (a : Bool) : inbox d.servers (d.sentByServer (ack r.psRequest :: replies t)) (c.home a) =
      if a = b then [some .ack,some .psBindReply] else [some .psBindReply] := by
    rw [replies,inbox_sentByServer,inbox_sentByServer,inbox_sentByServer,inbox_sentByServer_nil,sk1,sk2]
    by_cases same : a = b
    · subst a
      simp [UdpServer.ack,FullDatagram.psRequest,source,ackMessage,c.home_iff]
    · obtain rfl := Bool.eq_not.mpr same
      simp [UdpServer.ack,FullDatagram.psRequest,source,c.home_iff]
  have asked (a : Bool) : c.asks (before ++ after ++ d.sentByServer (ack r.psRequest :: replies t)) a =
      c.asks (before ++ after) a := by
    rw [asks_append,asks_server,List.append_nil]
  have silent (a : Bool) (type : MessageType) (between : Between type) :
      ¬Flies (d.serverStep {net with flight := before ++ after} r.toReceived).1.flight type (c.home a) (c.home !a) :=
    fun flies => asking.going.silent asking.apart a type between
      ((answer.flies_answered between (c.home_not_server a)).mp flies)
  constructor
  case aside =>
    rw [flight]
    exact asking.aside_answered (by simp [UdpServer.ack,ackMessage,replies])
  case standing => exact fun apart => absurd introduced apart
  case silent => exact fun apart => absurd introduced apart
  case paired =>
    intro _ a
    rw [flight,asked]
    by_cases same : a = b
    · subst a
      refine ⟨unasked,.introduced (Or.inl ⟨?_,?_⟩) (silent b)⟩
      · rcases how with ⟨_,none_heard⟩ | ⟨stage,_⟩
        · omega
        · exact stage
      · rw [answer.inbox_answered,mail,if_pos rfl,empty]
        rfl
    · obtain rfl := Bool.eq_not.mpr same
      have standing := asking.going.standing asking.apart !b
      obtain ⟨unasked',waits⟩ := standing.heard_twice.2 complete
      rw [asking.asks_other]
      refine ⟨unasked',.introduced ?_ (silent !b)⟩
      rw [answer.inbox_answered,mail,if_neg same]
      rcases waits with ⟨stage,one⟩ | ⟨stage,none_left⟩
      · exact Or.inl ⟨stage,by rw [one]; rfl⟩
      · exact Or.inr ⟨stage,by rw [none_left]; rfl⟩
  case vacant =>
    intro _
    rw [serverStep,map]
    exact erased
  case filed => exact fun _ _ apart => absurd introduced apart

end Asking

end Requests

section Others

variable {sent : List Packet}

theorem server_frame {r : Received} {flight : List Packet} (alike : c.Alike net.flight flight)
    (aside : c.RequestsAside flight)
    (kept : (handle net.server r).1.psTransactionClientMap c.id = net.server.psTransactionClientMap c.id)
    (answers : ∀ x ∈ (handle net.server r).2, x.message.type ≠ some .psBindRequest ∧ ∀ b, x.dest.endpoint ≠ c.home b)
    (going : c.Going net es) : c.Going (d.serverStep {net with flight := flight} r).1 es := by
  refine going.frame (alike.trans (alike_append ?_)) ?_ (fun _ => rfl) (fun _ => rfl) kept
  · intro q member b
    obtain ⟨x,out,rfl⟩ := List.mem_map.mp member
    have server (b : Bool) : d.server x.socket ≠ c.home b :=
      fun same => c.home_not_server b ((d.mem_servers _).mpr ⟨x.socket,same.symm⟩)
    refine ⟨fun this => server b this.1,fun this => ?_,fun this => server b this.1⟩
    exact (answers x out).2 b this.2
  · intro q member typed b
    rcases List.mem_append.mp member with old | new
    · exact aside q old typed b
    · obtain ⟨x,out,rfl⟩ := List.mem_map.mp new
      exact absurd ((Payload.type_ofMessage _).symm.trans typed) (answers x out).1

theorem request_apart (consistent : Consistent d fpu net sent) (r : FullDatagram .psBindRequest)
    (apart : r.transactionId ≠ c.id) (asked : Asked sent r.transactionId r.source) :
    (handle net.server r.toReceived).1.psTransactionClientMap c.id = net.server.psTransactionClientMap c.id ∧
      ∀ x ∈ (handle net.server r.toReceived).2,
        x.message.type ≠ some .psBindRequest ∧ ∀ b, x.dest.endpoint ≠ c.home b := by
  obtain ⟨map,answers⟩ := handle_psBindRequest net.server r
  have known : ∀ p ∈ (Past.of net sent).sent, d.PacketOk fpu (.of net sent) p := consistent.packets
  have elsewhere {e : Endpoint} (asked : Asked sent r.transactionId e) (b : Bool) :
      e.sockaddr.endpoint ≠ c.home b := by
    intro same
    obtain ⟨l,owner,id⟩ := asked.owner known
    rw [← e.sockaddr_endpoint,same,c.owner_home,Option.some.injEq] at owner
    subst owner
    exact apart (id.symm.trans (c.id_who b))
  have acked : (ack r.psRequest).message.type ≠ some .psBindRequest ∧
      ∀ b, (ack r.psRequest).dest.endpoint ≠ c.home b := ⟨by simp [UdpServer.ack,ackMessage],elsewhere asked⟩
  rw [map,answers]
  refine ⟨psHandle_other (Ne.symm apart),?_⟩
  rcases psHandle_answers net.server.psTransactionClientMap r.psRequest with only | ⟨t,alive,done,all⟩
  · rw [only]
    intro x member
    rw [List.mem_singleton.mp member]
    exact acked
  · have ok : RecordOk sent r.transactionId (t.add r.psRequest) :=
      recordOk_add (consistent.records _ t (live_stored alive)) asked
    obtain ⟨one,sk1,asked1⟩ := ok.cl1Sk1
    obtain ⟨two,sk2,asked2,_⟩ := ok.cl2Sk1 (ok.cl2Sk2 done.2.1).1
    rw [all,replies,sk1,sk2]
    intro x member
    simp only [List.mem_cons,List.not_mem_nil,or_false] at member
    rcases member with rfl | rfl | rfl
    · exact acked
    · exact ⟨by simp,elsewhere asked1⟩
    · exact ⟨by simp,elsewhere asked2⟩

end Others

def heard (c : Couple d) (net : ScanNetwork ι) : d.Event fpu → List Bool
  | .serve s position _ _ _ => match net.flight[position]? with
    | none => []
    | some p => if p.dst = d.server s ∧ p.payload.type = some .psBindRequest
      then [true,false].filter fun b => p.src = c.home b else []
  | _ => []

theorem heard_own (source : p.src = c.home b) : ([true,false].filter fun b => p.src = c.home b) = [b] := by
  rw [source]
  cases b <;> simp [c.home_iff]

theorem heard_none (other : ∀ b, p.src ≠ c.home b) : ([true,false].filter fun b => p.src = c.home b) = [] := by
  simp [other]

theorem foreign_served {s : ServerSocket} (mine : p.dst = d.server s)
    (other : ∀ b, ¬(p.src = c.home b ∧ p.payload.type = some .psBindRequest)) : c.Foreign p := by
  have elsewhere (b : Bool) : p.dst ≠ c.home b :=
    fun same => c.home_not_server b ((d.mem_servers _).mpr ⟨s,same.symm.trans mine⟩)
  exact fun b => ⟨other b,fun this => elsewhere b this.2,fun this => elsewhere (!b) this.2⟩

theorem going_serve [DecidableEq ι] {sent : List Packet} (s : ServerSocket) (position : Nat) (clock1 clock2 : UInt64)
    (fresh : Option Message)
    (timely : ∀ p b t, net.flight[position]? = some p → p.src = c.home b →
      net.server.psTransactionClientMap c.id = some t → ¬t.expired clock1)
    (consistent : Consistent d fpu net sent) (going : c.Going net es) :
    c.Going (d.step net (.serve s position clock1 clock2 fresh : d.Event fpu)).1
      (es ++ c.heard net (.serve s position clock1 clock2 fresh : d.Event fpu)) := by
  simp only [step,heard]
  cases found : net.flight[position]? with
  | none =>
    rw [List.append_nil]
    exact going
  | some p =>
    by_cases mine : p.dst = d.server s
    · simp only [mine,if_true,true_and]
      have flown := consistent.flight (List.mem_of_getElem? found)
      have aside := aside_erase position going.aside
      have idle (msg : Message) (content : p.payload = .ofMessage msg)
          (other : msg.type ≠ some .psBindRequest ∧ msg.type ≠ some .bindRequest ∧ msg.type ≠ some .heartbeat) :
          c.Going (d.serverStep {net with flight := net.flight.eraseIdx position}
              ⟨s,p.payload,p.src,clock1,clock2,fresh⟩).1
            (es ++ if p.payload.type = some .psBindRequest then [true,false].filter fun b => p.src = c.home b
              else []) := by
        have typed : p.payload.type ≠ some .psBindRequest := by
          rw [content,Payload.type_ofMessage]
          exact other.1
        have quiet := handle_idle net.server ⟨s,p.payload,p.src,clock1,clock2,fresh⟩ msg content other
        rw [if_neg typed,List.append_nil]
        refine server_frame (alike_erase found (foreign_served mine fun b this => typed this.2)) aside
          (by rw [quiet]) ?_ going
        rw [quiet]
        exact fun _ member => absurd member List.not_mem_nil
      cases consistent.packets p flown with
      | psBindRequest src dst i msg from_ typed own =>
        have asks : (Payload.ofMessage msg).type = some .psBindRequest := by simpa using typed
        let r : FullDatagram .psBindRequest :=
          ⟨⟨s,.ofMessage msg,src,clock1,clock2,fresh⟩,by simp [Payload.ofMessage],asks⟩
        have id : r.transactionId = d.transactionId i := by
          rw [← own]
          simp [r,FullDatagram.transactionId,Message.received_ofMessage]
        rw [if_pos asks]
        by_cases ours : ∃ b, src = c.home b
        · obtain ⟨b,rfl⟩ := ours
          rw [c.owner_home,Option.some.injEq] at from_
          subst from_
          rw [c.id_who] at id
          obtain ⟨split,erased⟩ := split_of_getElem? found
          have asking : Asking c net es b ⟨c.home b,dst,.ofMessage msg⟩ (net.flight.take position)
              (net.flight.drop (position + 1)) := ⟨going,split,rfl,asks⟩
          obtain ⟨_,_,_,how⟩ := asking.stands
          have few : es.count b ≤ 1 := by
            rcases how with ⟨_,count⟩ | ⟨_,count⟩ <;> omega
          rw [heard_own (c := c) (b := b) rfl,erased]
          rcases request_filed r.psRequest id rfl few (going.standing asking.apart !b).heard_twice.1
            (fun t stored => timely _ b t found rfl stored) (fun none_heard => going.vacant (Or.inl none_heard))
            (fun a first => going.filed a first asking.apart) with
            ⟨apart,acked,filed⟩ | ⟨introduced,last,complete,erased,t,answers,sk1,sk2⟩
          · exact asking.going_kept (r := r) rfl acked apart filed
          · exact asking.going_matched (r := r) rfl introduced last complete erased answers sk1 sk2
        · have other (b : Bool) : src ≠ c.home b := fun same => ours ⟨b,same⟩
          have apart : r.transactionId ≠ c.id := by
            rw [id]
            intro same
            obtain ⟨b,rfl⟩ := c.alone i same
            exact other b ((c.owns b src).mp from_)
          obtain ⟨kept,answers⟩ := request_apart (c := c) consistent r apart
            ⟨_,flown,rfl,asks,r.payload_transactionId⟩
          rw [heard_none other,List.append_nil]
          exact server_frame (alike_erase found (foreign_served mine fun b this => other b this.1)) aside kept answers
            going
      | ack s' dst msg typed => exact idle msg rfl (by simp [typed])
      | psBindReply s' dst i msg one two to_ typed => exact idle msg rfl (by simp [typed])
      | clientBindRequest src dst i msg from_ typed => exact idle msg rfl (by simp [typed])
      | clientBindResponse src dst i j msg from_ to_ typed => exact idle msg rfl (by simp [typed])
    · simp only [mine,if_false,false_and,List.append_nil]
      exact going

end P2pStun.Couple
