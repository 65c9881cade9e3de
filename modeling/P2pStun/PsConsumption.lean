import P2pStun.PsIsolation
import P2pStun.ServerTraffic

/-! Each request of the port-scanning rendezvous serves one match at most, and an
undisturbed pair of clients is served exactly when the second of them comes last. -/
namespace P2pStun
open Runs

def Drawn (group : List WholeDatagram) (a : SockaddrIn) (time : UInt64) : Prop :=
  ∃ d ∈ group, a = d.source.sockaddr ∧ (time = d.clock1 ∨ time = d.clock2)

structure RecordDrawn (group : List WholeDatagram) (t : PsTransaction) : Prop where
  ordered : t.Ordered
  cl1Sk1 : Drawn group t.cl1Sk1 t.cl1Ts1
  cl1Sk2 : t.cl1Sk2.sinAddr ≠ 0 → Drawn group t.cl1Sk2 t.cl1Ts2
  cl2Sk1 : t.cl2Sk1.sinAddr ≠ 0 → Drawn group t.cl2Sk1 t.cl2Ts1
  cl2Sk2 : t.cl2Sk2.sinAddr ≠ 0 → Drawn group t.cl2Sk2 t.cl2Ts2

structure MatchDrawn (group : List WholeDatagram) (t : PsTransaction) : Prop where
  cl1Sk1 : Drawn group t.cl1Sk1 t.cl1Ts1
  cl1Sk2 : Drawn group t.cl1Sk2 t.cl1Ts2
  cl2Sk1 : Drawn group t.cl2Sk1 t.cl2Ts1
  cl2Sk2 : Drawn group t.cl2Sk2 t.cl2Ts2

section Drawing

variable {group : List WholeDatagram} {t : PsTransaction} {d : WholeDatagram}

theorem Drawn.grow {a : SockaddrIn} {time : UInt64} (drawn : Drawn group a time) :
    Drawn (group ++ [d]) a time := by
  obtain ⟨e,member,rest⟩ := drawn
  exact ⟨e,List.mem_append_left _ member,rest⟩

theorem drawn_last : Drawn (group ++ [d]) d.source.sockaddr d.clock2 :=
  ⟨d,by simp,rfl,Or.inr rfl⟩

theorem RecordDrawn.match_ (drawn : RecordDrawn group t) (both : t.complete) : MatchDrawn group t :=
  ⟨drawn.cl1Sk1,drawn.cl1Sk2 both.2,drawn.cl2Sk1 (drawn.ordered both.1),drawn.cl2Sk2 both.1⟩

theorem recordDrawn_create (time : UInt64) (reading : time = d.clock1 ∨ time = d.clock2) :
    RecordDrawn [d] (.create d.source.sockaddr time) where
  ordered second := absurd rfl second
  cl1Sk1 := ⟨d,by simp,rfl,reading⟩
  cl1Sk2 second := absurd rfl second
  cl2Sk1 second := absurd rfl second
  cl2Sk2 second := absurd rfl second

theorem RecordDrawn.add (drawn : RecordDrawn group t) (req : PsRequest) (source : req.source = d.source)
    (clock : req.clock2 = d.clock2) : RecordDrawn (group ++ [d]) (t.add req) := by
  have ordered := PsTransaction.ordered_add drawn.ordered req
  have own : Drawn (group ++ [d]) req.source.sockaddr req.clock2 := by
    rw [source,clock]
    exact drawn_last
  have first := drawn.cl1Sk1.grow (d := d)
  have second (set_ : t.cl1Sk2.sinAddr ≠ 0) := (drawn.cl1Sk2 set_).grow (d := d)
  have third (set_ : t.cl2Sk1.sinAddr ≠ 0) := (drawn.cl2Sk1 set_).grow (d := d)
  have fourth (set_ : t.cl2Sk2.sinAddr ≠ 0) := (drawn.cl2Sk2 set_).grow (d := d)
  cases slot : t.slot req.source.addr with
  | cl1Port2 =>
    rw [PsTransaction.add_cl1Port2 slot] at ordered ⊢
    exact ⟨ordered,first,fun _ => own,third,fourth⟩
  | cl2Port1 =>
    rw [PsTransaction.add_cl2Port1 slot] at ordered ⊢
    exact ⟨ordered,first,second,fun _ => own,fourth⟩
  | cl2Port2 =>
    rw [PsTransaction.add_cl2Port2 slot] at ordered ⊢
    exact ⟨ordered,first,second,third,fun _ => own⟩
  | third =>
    rw [PsTransaction.add_third slot] at ordered ⊢
    exact ⟨ordered,first,second,third,fourth⟩

end Drawing

namespace UdpServer

theorem psReplies_append (a b : List Sent) : psReplies (a ++ b) = psReplies a ++ psReplies b :=
  List.filter_append ..

/-- The datagrams for an id so far: a group for each match, whose replies were drawn from
it, and the datagrams its record was drawn from. -/
structure Grouped (k : UInt32) (past : List WholeDatagram) (s : UdpServer)
    (groups : List (List WholeDatagram)) (since : List WholeDatagram)
    (matches_ : List PsTransaction) : Prop where
  once : (groups.flatten ++ since).Sublist (past.filter (WholeDatagram.isRequestFor k))
  drawn : ∀ t, s.psTransactionClientMap k = some t → RecordDrawn since t
  answered : psReplies (outputsOf serveWhole (WholeDatagram.isRequestFor k) init past) =
    matches_.flatMap replies
  from_ : List.Forall₂ MatchDrawn groups matches_

theorem grouped_other {k : UInt32} {past : List WholeDatagram} {s : UdpServer}
    {groups : List (List WholeDatagram)} {since : List WholeDatagram} {matches_ : List PsTransaction}
    (d : WholeDatagram) (isNot : d.isRequestFor k = false)
    (before : Grouped k past s groups since matches_) :
    Grouped k (past ++ [d]) (serveWhole s d).1 groups since matches_ := by
  have kept : SameRecord k (serveWhole s d).1 s := sameRecord_other k s s d isNot rfl
  refine ⟨?_,?_,?_,before.from_⟩
  · rw [List.filter_append,List.filter_cons_of_neg (by simp [isNot]),List.filter_nil,List.append_nil]
    exact before.once
  · intro t found
    rw [show _ = _ from kept] at found
    exact before.drawn t found
  · rw [outputsOf_concat,isNot,if_neg (by simp),List.append_nil]
    exact before.answered

def request (k : UInt32) (d : WholeDatagram) : PsRequest := ⟨d.socket,k,d.source,d.clock1,d.clock2⟩

theorem request_psRequest {k : UInt32} {d : WholeDatagram} (is : d.isRequestFor k = true) (s : UdpServer) :
    s.psRequest d.toReceived = request k d := by
  have named := ((d.isRequestFor_iff k).mp is).2
  have same := Option.some.inj (named.symm.trans (d.psRequest_transactionId s))
  simp only [psRequest,request] at same ⊢
  rw [← same]

theorem serveWhole_request {k : UInt32} {d : WholeDatagram} (is : d.isRequestFor k = true) (s : UdpServer) :
    (serveWhole s d).1.psTransactionClientMap =
        (psHandle s.psTransactionClientMap (request k d)).1 ∧
      (serveWhole s d).2 = (psHandle s.psTransactionClientMap (request k d)).2 := by
  have typed := ((d.isRequestFor_iff k).mp is).1
  obtain ⟨map,_,sent⟩ := handle_scan ((d.buffer_type s).trans typed)
  rw [request_psRequest is s] at map sent
  exact ⟨map,sent⟩

section Request

variable {k : UInt32} {s : UdpServer} {d : WholeDatagram} {t : PsTransaction}

theorem update_own (map : PsMap) (entry : Option PsTransaction) :
    Function.update map (request k d).transactionId entry k = entry := Function.update_self ..

theorem request_opened (is : d.isRequestFor k = true)
    (dead : live s.psTransactionClientMap (request k d) = none) :
    (serveWhole s d).1.psTransactionClientMap k =
        some (.create d.source.sockaddr (openTime s.psTransactionClientMap (request k d))) ∧
      psReplies (serveWhole s d).2 = [] := by
  obtain ⟨map,sent⟩ := serveWhole_request is s
  rw [map,sent,psHandle_opened dead]
  exact ⟨update_own _ _,psReplies_ack _⟩

theorem request_kept (is : d.isRequestFor k = true)
    (alive : live s.psTransactionClientMap (request k d) = some t) (pending : ¬matched t (request k d)) :
    (serveWhole s d).1.psTransactionClientMap k = some (t.add (request k d)) ∧
      psReplies (serveWhole s d).2 = [] := by
  obtain ⟨map,sent⟩ := serveWhole_request is s
  rw [map,sent,psHandle_kept alive pending]
  exact ⟨update_own _ _,psReplies_ack _⟩

theorem request_matched (is : d.isRequestFor k = true)
    (alive : live s.psTransactionClientMap (request k d) = some t) (done : matched t (request k d)) :
    (serveWhole s d).1.psTransactionClientMap k = none ∧
      psReplies (serveWhole s d).2 = replies (t.add (request k d)) := by
  obtain ⟨map,sent⟩ := serveWhole_request is s
  rw [map,sent,psHandle_matched alive done]
  exact ⟨update_own _ _,psReplies_matched _ _⟩

end Request

theorem grouped_request {k : UInt32} {past : List WholeDatagram}
    {groups : List (List WholeDatagram)} {since : List WholeDatagram} {matches_ : List PsTransaction}
    (d : WholeDatagram) (is : d.isRequestFor k = true)
    (before : Grouped k past (run serveWhole init past) groups since matches_) :
    ∃ groups' since' matches', Grouped k (past ++ [d]) (serveWhole (run serveWhole init past) d).1
      groups' since' matches' := by
  generalize reached : run serveWhole init past = s at before
  have later : (past ++ [d]).filter (WholeDatagram.isRequestFor k) =
      past.filter (WholeDatagram.isRequestFor k) ++ [d] := by
    rw [List.filter_append,List.filter_cons_of_pos is,List.filter_nil]
  have answers : psReplies (outputsOf serveWhole (WholeDatagram.isRequestFor k) init (past ++ [d])) =
      matches_.flatMap replies ++ psReplies (serveWhole s d).2 := by
    rw [outputsOf_concat,is,if_pos rfl,psReplies_append,before.answered,reached]
  cases alive : live s.psTransactionClientMap (request k d) with
  | none =>
    obtain ⟨stored,silent⟩ := request_opened is alive
    refine ⟨groups,[d],matches_,?_,?_,?_,before.from_⟩
    · rw [later]
      exact ((List.sublist_append_left _ _).trans before.once).append (List.Sublist.refl _)
    · intro t found
      cases stored.symm.trans found
      apply recordDrawn_create
      unfold openTime
      split
      · exact Or.inl rfl
      · exact Or.inr rfl
    · rw [answers,silent,List.append_nil]
  | some t =>
    have drawn : RecordDrawn (since ++ [d]) (t.add (request k d)) :=
      (before.drawn t (live_stored alive)).add (request k d) rfl rfl
    have grown : (groups.flatten ++ (since ++ [d])).Sublist
        ((past ++ [d]).filter (WholeDatagram.isRequestFor k)) := by
      rw [later,← List.append_assoc]
      exact before.once.append (List.Sublist.refl _)
    by_cases done : matched t (request k d)
    · obtain ⟨gone,sent⟩ := request_matched is alive done
      refine ⟨groups ++ [since ++ [d]],[],matches_ ++ [t.add (request k d)],?_,?_,?_,?_⟩
      · rwa [List.flatten_append,List.flatten_singleton,List.append_nil]
      · intro u found
        exact absurd (gone.symm.trans found) nofun
      · rw [answers,sent,List.flatMap_append,List.flatMap_singleton]
      · exact List.rel_append before.from_ (.cons (drawn.match_ done.2) .nil)
    · obtain ⟨stored,silent⟩ := request_kept is alive done
      refine ⟨groups,since ++ [d],matches_,grown,?_,?_,before.from_⟩
      · intro u found
        cases stored.symm.trans found
        exact drawn
      · rw [answers,silent,List.append_nil]

/-- The replies sent for an id are those of matches, each of them drawn from a group of
requests for the id; the groups follow each other and share no request. -/
theorem matches_consume (ds : List WholeDatagram) (k : UInt32) :
    ∃ (groups : List (List WholeDatagram)) (matches_ : List PsTransaction),
      psReplies (outputsOf serveWhole (WholeDatagram.isRequestFor k) init ds) = matches_.flatMap replies ∧
      List.Forall₂ MatchDrawn groups matches_ ∧
      groups.flatten.Sublist (ds.filter (WholeDatagram.isRequestFor k)) := by
  have grouped : ∃ groups since matches_, Grouped k ds (run serveWhole init ds) groups since matches_ := by
    refine history_invariant (fun past s => ∃ groups since matches_, Grouped k past s groups since matches_)
      ⟨[],[],[],List.nil_sublist _,fun _ found => absurd found (by simp [init]),rfl,.nil⟩ ?_ ds
    rintro past d ⟨groups,since,matches_,before⟩
    cases is : d.isRequestFor k with
    | true => exact grouped_request d is before
    | false => exact ⟨groups,since,matches_,grouped_other d is before⟩
  obtain ⟨groups,since,matches_,all⟩ := grouped
  exact ⟨groups,matches_,all.answered,all.from_,(List.sublist_append_left _ _).trans all.once⟩

end UdpServer

/-- The requests of two clients for one id, each from one IP, in time for the record that
the first of them opens. -/
structure PsPair (k : UInt32) where
  x1 : WholeDatagram
  x2 : WholeDatagram
  y1 : WholeDatagram
  y2 : WholeDatagram
  requests : ∀ d ∈ [x1,x2,y1,y2], d.isRequestFor k = true
  oneX : x2.source.addr = x1.source.addr
  oneY : y2.source.addr = y1.source.addr
  apart : x1.source.addr ≠ y1.source.addr
  routed : x1.source.addr ≠ 0 ∧ y1.source.addr ≠ 0
  inTime : ∀ d ∈ [x2,y1,y2], ¬x1.clock1 + 30000 < d.clock1

namespace PsPair

variable {k : UInt32} (p : PsPair k)

def record : PsTransaction where
  cl1Sk1 := p.x1.source.sockaddr
  cl1Sk2 := p.x2.source.sockaddr
  cl1Ts1 := p.x1.clock1
  cl1Ts2 := p.x2.clock2
  cl2Sk1 := p.y1.source.sockaddr
  cl2Sk2 := p.y2.source.sockaddr
  cl2Ts1 := p.y1.clock2
  cl2Ts2 := p.y2.clock2

end PsPair

namespace UdpServer

section Orders

variable {k : UInt32} (p : PsPair k) (s : UdpServer)

structure Awaits (t : PsTransaction) : Prop where
  stored : s.psTransactionClientMap k = some t
  opened : t.cl1Sk1 = p.x1.source.sockaddr
  time : t.cl1Ts1 = p.x1.clock1

variable {p s}

theorem Awaits.alive {t : PsTransaction} (awaits : Awaits p s t) (d : WholeDatagram)
    (later : d ∈ [p.x2,p.y1,p.y2]) : live s.psTransactionClientMap (request k d) = some t := by
  refine (live_eq_some _ _ _).mpr ⟨awaits.stored,?_⟩
  rw [PsTransaction.expired,awaits.time]
  exact p.inTime d later

theorem request_x2 {t : PsTransaction} (awaits : Awaits p s t) :
    (serveWhole s p.x2).1.psTransactionClientMap k =
        some {t with cl1Ts2 := p.x2.clock2, cl1Sk2 := p.x2.source.sockaddr} ∧
      psReplies (serveWhole s p.x2).2 = [] := by
  have slot : t.slot (request k p.x2).source.addr = .cl1Port2 := by
    rw [PsTransaction.slot_cl1Port2,awaits.opened]
    exact p.oneX.symm
  have pending : ¬matched t (request k p.x2) := fun done => done.1 slot
  obtain ⟨map,silent⟩ := request_kept (p.requests _ (by simp)) (awaits.alive _ (by simp)) pending
  rw [PsTransaction.add_cl1Port2 slot] at map
  exact ⟨map,silent⟩

theorem request_y1 {t : PsTransaction} (awaits : Awaits p s t)
    (empty : t.cl2Sk1.sinAddr = 0 ∧ t.cl2Sk2.sinAddr = 0) :
    (serveWhole s p.y1).1.psTransactionClientMap k =
        some {t with cl2Ts1 := p.y1.clock2, cl2Sk1 := p.y1.source.sockaddr} ∧
      psReplies (serveWhole s p.y1).2 = [] := by
  have slot : t.slot (request k p.y1).source.addr = .cl2Port1 := by
    rw [PsTransaction.slot_cl2Port1,awaits.opened]
    exact ⟨p.apart,empty.1⟩
  have pending : ¬matched t (request k p.y1) := by
    rintro ⟨_,both⟩
    rw [PsTransaction.add_cl2Port1 slot] at both
    exact both.1 empty.2
  obtain ⟨map,silent⟩ := request_kept (p.requests _ (by simp)) (awaits.alive _ (by simp)) pending
  rw [PsTransaction.add_cl2Port1 slot] at map
  exact ⟨map,silent⟩

theorem slot_y2 {t : PsTransaction} (awaits : Awaits p s t) (known : t.cl2Sk1 = p.y1.source.sockaddr) :
    t.slot (request k p.y2).source.addr = .cl2Port2 := by
  rw [PsTransaction.slot_cl2Port2,awaits.opened,known]
  refine ⟨?_,p.routed.2,p.oneY.symm⟩
  exact fun same => p.apart (same.trans p.oneY)

theorem request_y2_last {t : PsTransaction} (awaits : Awaits p s t) (known : t.cl2Sk1 = p.y1.source.sockaddr) (second : t.cl1Sk2.sinAddr ≠ 0) :
    (serveWhole s p.y2).1.psTransactionClientMap k = none ∧
      psReplies (serveWhole s p.y2).2 =
        replies {t with cl2Ts2 := p.y2.clock2, cl2Sk2 := p.y2.source.sockaddr} := by
  have slot := slot_y2 awaits known
  have routed : p.y2.source.addr ≠ 0 := p.oneY ▸ p.routed.2
  have done : matched t (request k p.y2) := by
    rw [matched,slot,PsTransaction.add_cl2Port2 slot]
    exact ⟨by decide,routed,second⟩
  obtain ⟨map,sent⟩ := request_matched (p.requests _ (by simp)) (awaits.alive _ (by simp)) done
  rw [PsTransaction.add_cl2Port2 slot] at sent
  exact ⟨map,sent⟩

theorem request_y2_early {t : PsTransaction} (awaits : Awaits p s t) (known : t.cl2Sk1 = p.y1.source.sockaddr) (empty : t.cl1Sk2.sinAddr = 0) :
    (serveWhole s p.y2).1.psTransactionClientMap k =
        some {t with cl2Ts2 := p.y2.clock2, cl2Sk2 := p.y2.source.sockaddr} ∧
      psReplies (serveWhole s p.y2).2 = [] := by
  have slot := slot_y2 awaits known
  have pending : ¬matched t (request k p.y2) := by
    rintro ⟨_,both⟩
    rw [PsTransaction.add_cl2Port2 slot] at both
    exact both.2 empty
  obtain ⟨map,silent⟩ := request_kept (p.requests _ (by simp)) (awaits.alive _ (by simp)) pending
  rw [PsTransaction.add_cl2Port2 slot] at map
  exact ⟨map,silent⟩

theorem request_x1 (vacant : s.psTransactionClientMap k = none) :
    Awaits p (serveWhole s p.x1).1 (.create p.x1.source.sockaddr p.x1.clock1) ∧
      psReplies (serveWhole s p.x1).2 = [] := by
  have dead : live s.psTransactionClientMap (request k p.x1) = none := by simp [live,request,vacant]
  have time : openTime s.psTransactionClientMap (request k p.x1) = p.x1.clock1 := by
    simp [openTime,request,vacant]
  obtain ⟨map,silent⟩ := request_opened (p.requests _ (by simp)) dead
  rw [time] at map
  exact ⟨⟨map,rfl,rfl⟩,silent⟩

theorem addr_x2 : p.x2.source.addr ≠ 0 := p.oneX ▸ p.routed.1

/-- The replies a list of requests gets, and what it leaves of their record. -/
def Serves (k : UInt32) (s : UdpServer) (ds : List WholeDatagram) (sent : List Sent)
    (left : Option PsTransaction) : Prop :=
  psReplies (outputs serveWhole s ds) = sent ∧ (run serveWhole s ds).psTransactionClientMap k = left

theorem serves_four {a b c d : WholeDatagram} {sent : List Sent} {left : Option PsTransaction}
    (first : psReplies (serveWhole s a).2 = [])
    (second : psReplies (serveWhole (serveWhole s a).1 b).2 = [])
    (third : psReplies (serveWhole (serveWhole (serveWhole s a).1 b).1 c).2 = [])
    (last : (serveWhole (serveWhole (serveWhole (serveWhole s a).1 b).1 c).1 d).1.psTransactionClientMap k =
        left ∧ psReplies (serveWhole (serveWhole (serveWhole (serveWhole s a).1 b).1 c).1 d).2 = sent) :
    Serves k s [a,b,c,d] sent left := by
  refine ⟨?_,last.1⟩
  simp only [outputs_cons,outputs_nil,psReplies_append,first,second,third,last.2,List.nil_append]
  exact List.append_nil sent

theorem serves_x1_x2_y1_y2 (vacant : s.psTransactionClientMap k = none) :
    Serves k s [p.x1,p.x2,p.y1,p.y2] (replies p.record) none := by
  obtain ⟨awaits1,silent1⟩ := request_x1 (p := p) vacant
  obtain ⟨stored2,silent2⟩ := request_x2 awaits1
  obtain ⟨stored3,silent3⟩ := request_y1 ⟨stored2,rfl,rfl⟩ ⟨rfl,rfl⟩
  exact serves_four silent1 silent2 silent3 (request_y2_last ⟨stored3,rfl,rfl⟩ rfl addr_x2)

theorem serves_x1_y1_x2_y2 (vacant : s.psTransactionClientMap k = none) :
    Serves k s [p.x1,p.y1,p.x2,p.y2] (replies p.record) none := by
  obtain ⟨awaits1,silent1⟩ := request_x1 (p := p) vacant
  obtain ⟨stored2,silent2⟩ := request_y1 awaits1 ⟨rfl,rfl⟩
  obtain ⟨stored3,silent3⟩ := request_x2 ⟨stored2,rfl,rfl⟩
  exact serves_four silent1 silent2 silent3 (request_y2_last ⟨stored3,rfl,rfl⟩ rfl addr_x2)

theorem serves_x1_y1_y2_x2 (vacant : s.psTransactionClientMap k = none) :
    Serves k s [p.x1,p.y1,p.y2,p.x2] [] (some p.record) := by
  obtain ⟨awaits1,silent1⟩ := request_x1 (p := p) vacant
  obtain ⟨stored2,silent2⟩ := request_y1 awaits1 ⟨rfl,rfl⟩
  obtain ⟨stored3,silent3⟩ := request_y2_early ⟨stored2,rfl,rfl⟩ rfl rfl
  exact serves_four silent1 silent2 silent3 (request_x2 ⟨stored3,rfl,rfl⟩)

end Orders

/-- Amid any other traffic, a pair of clients that finds no record for its id is introduced
if its second client sends the last of the four requests; if the first one does, no reply is
sent and the finished record stays. -/
theorem pair_served (k : UInt32) (p : PsPair k) (s : UdpServer)
    (vacant : s.psTransactionClientMap k = none) (ds : List WholeDatagram) :
    let own := ds.filter (WholeDatagram.isRequestFor k)
    let sent := psReplies (outputsOf serveWhole (WholeDatagram.isRequestFor k) s ds)
    let left := (run serveWhole s ds).psTransactionClientMap k
    (own = [p.x1,p.x2,p.y1,p.y2] ∨ own = [p.x1,p.y1,p.x2,p.y2] → sent = replies p.record ∧ left = none) ∧
      (own = [p.x1,p.y1,p.y2,p.x2] → sent = [] ∧ left = some p.record) := by
  intro own sent left
  obtain ⟨same,answers⟩ := run_restricted (R := SameRecord k) (WholeDatagram.isRequestFor k)
    (sameRecord_request k) (sameRecord_other k) (s := s) (t := s) rfl ds
  have alone (final : List Sent) (after : Option PsTransaction) (serves : Serves k s own final after) :
      sent = final ∧ left = after :=
    ⟨(congrArg psReplies answers).trans serves.1,same.trans serves.2⟩
  constructor
  · rintro (order | order)
    · exact alone _ _ (order ▸ serves_x1_x2_y1_y2 vacant)
    · exact alone _ _ (order ▸ serves_x1_y1_x2_y2 vacant)
  · intro order
    exact alone _ _ (order ▸ serves_x1_y1_y2_x2 vacant)

def wholeRequest (addr : UInt32) (port : UInt16) (socket : ServerSocket) (time : UInt64) : WholeDatagram :=
  ⟨(scanRequest addr port socket time).toReceived,(scanRequest addr port socket time).full⟩

def pairOfTwo : PsPair 7 where
  x1 := wholeRequest 1 10 .first 0
  x2 := wholeRequest 1 11 .second 2
  y1 := wholeRequest 2 20 .first 1
  y2 := wholeRequest 2 21 .second 3
  requests := by decide
  oneX := rfl
  oneY := rfl
  apart := by decide
  routed := by decide
  inTime := by decide

def strangersHeartbeat : WholeDatagram :=
  ⟨(FullDatagram.ofRequest .heartbeat 7 ⟨9,90⟩ .first 1).toReceived,
    (FullDatagram.ofRequest .heartbeat 7 ⟨9,90⟩ .first 1).full⟩

theorem pairOfTwo_served :
    let p := pairOfTwo
    let ds := [p.x1,strangersHeartbeat,p.y1,p.x2,p.y2]
    psReplies (outputsOf serveWhole (WholeDatagram.isRequestFor 7) init ds) = replies p.record ∧
      (run serveWhole init ds).psTransactionClientMap 7 = none :=
  (pair_served 7 pairOfTwo init rfl _).1 (Or.inr rfl)

end UdpServer

end P2pStun
