import P2pStun.PlainRendezvous
import P2pStun.PsFiling

/-! The sockets the server answers through. Beside the server runs an observer that
remembers, for every stored endpoint, the datagram it was taken from. -/
namespace P2pStun.UdpServer
open Runs

structure Origins where
  plain : UInt32 → Option Received
  first : UInt32 → Option Received
  second : UInt32 → Option Received

namespace Origins

def empty : Origins := ⟨fun _ => none,fun _ => none,fun _ => none⟩

def psBindRequest (o : Origins) (map : PsMap) (req : PsRequest) (d : Received) : Origins :=
  match live map req with
  | none => {o with
      first := Function.update o.first req.transactionId (some d)
      second := Function.update o.second req.transactionId none}
  | some t =>
    if t.slot req.source.addr = .cl2Port1 then
      {o with second := Function.update o.second req.transactionId (some d)}
    else o

def bindRequest (o : Origins) (map : ClientMap) (d : Received) : Origins :=
  {o with plain := Function.update o.plain 0 (if (map 0).isNone then some d else none)}

end Origins

def observe : Machine (UdpServer × Origins) Received Sent := fun (s,o) d =>
  let origins := match (s.buffer d).type with
    | some .psBindRequest => o.psBindRequest s.psTransactionClientMap (s.psRequest d) d
    | some .bindRequest => o.bindRequest s.transactionClientMap d
    | _ => o
  (((handle s d).1,origins),(handle s d).2)

/-- For each datagram that is sent, the one that made its recipient known. -/
def madeKnown : UdpServer × Origins → Received → List Received := fun (s,o) d =>
  match (s.buffer d).type with
  | some .psBindRequest =>
    let req := s.psRequest d
    match live s.psTransactionClientMap req with
    | none => [d]
    | some t =>
      if matched t req then
        d :: ((o.first req.transactionId).toList ++ (o.second req.transactionId).toList)
      else [d]
  | some .bindRequest =>
    if (s.transactionClientMap 0).isNone then [d] else d :: d :: (o.plain 0).toList
  | some .heartbeat => [d]
  | _ => []

def AnswersTo (x : Sent) (d : Received) : Prop := x.dest = d.source.sockaddr ∧ x.socket = d.socket

def AnswersWhereKnown (s : UdpServer × Origins) (d : Received) : Prop :=
  List.Forall₂ AnswersTo (observe s d).2 (madeKnown s d)

/-- Plain requests and heartbeats arrive on the first socket, and so did the requests
that made the two clients of a match known. -/
def KnownOnFirst : UdpServer × Origins → Received → Prop := fun (s,o) d =>
  match (s.buffer d).type with
  | some .psBindRequest =>
    let req := s.psRequest d
    ∀ t, live s.psTransactionClientMap req = some t → matched t req →
      ∀ r, o.first req.transactionId = some r ∨ o.second req.transactionId = some r → r.socket = .first
  | some .bindRequest => d.socket = .first
  | some .heartbeat => d.socket = .first
  | _ => True

theorem observe_run (s : UdpServer) (o : Origins) (ds : List Received) :
    (run observe (s,o) ds).1 = run handle s ds := by
  have viewed := run_view (m := observe) (n := handle) Prod.fst id (fun _ _ => rfl) (s,o) ds
  rwa [List.map_id] at viewed

structure RecordOrigins (o : Origins) (k : UInt32) (t : PsTransaction) : Prop where
  first : ∃ r, o.first k = some r ∧ t.cl1Sk1 = r.source.sockaddr
  second : t.cl2Sk1.sinAddr ≠ 0 → ∃ r, o.second k = some r ∧ t.cl2Sk1 = r.source.sockaddr
  order : t.cl2Sk2.sinAddr ≠ 0 → t.cl2Sk1.sinAddr ≠ 0

structure Tracked (s : UdpServer × Origins) : Prop where
  plain : ∀ a, s.1.transactionClientMap 0 = some a →
    ∃ r, s.2.plain 0 = some r ∧ a = r.source.sockaddr
  records : ∀ k t, s.1.psTransactionClientMap k = some t → RecordOrigins s.2 k t

theorem origins_add (o : Origins) (map : PsMap) (req : PsRequest) (d : Received) (t : PsTransaction)
    (source : req.source = d.source) (alive : live map req = some t)
    (before : RecordOrigins o req.transactionId t) :
    RecordOrigins (o.psBindRequest map req d) req.transactionId (t.add req) := by
  rw [Origins.psBindRequest,alive]
  cases slot : t.slot req.source.addr with
  | cl1Port2 =>
    rw [PsTransaction.add_cl1Port2 slot]
    simp only [slot,reduceCtorEq,if_false]
    exact ⟨before.first,before.second,before.order⟩
  | third =>
    rw [PsTransaction.add_third slot]
    simp only [slot,reduceCtorEq,if_false]
    exact ⟨before.first,before.second,before.order⟩
  | cl2Port1 =>
    have empty := ((t.slot_cl2Port1 _).mp slot).2
    rw [PsTransaction.add_cl2Port1 slot]
    simp only [slot,if_true]
    refine ⟨before.first,?_,fun set => absurd empty (before.order set)⟩
    intro _
    exact ⟨d,Function.update_self _ _ _,congrArg Endpoint.sockaddr source⟩
  | cl2Port2 =>
    have set := ((t.slot_cl2Port2 _).mp slot).2.1
    rw [PsTransaction.add_cl2Port2 slot]
    simp only [slot,reduceCtorEq,if_false]
    exact ⟨before.first,before.second,fun _ => set⟩

theorem origins_other (o : Origins) (map : PsMap) (req : PsRequest) (d : Received) (k : UInt32)
    (apart : k ≠ req.transactionId) :
    (o.psBindRequest map req d).first k = o.first k ∧
      (o.psBindRequest map req d).second k = o.second k := by
  unfold Origins.psBindRequest
  split
  · exact ⟨Function.update_of_ne apart _ _,Function.update_of_ne apart _ _⟩
  · split
    · exact ⟨rfl,Function.update_of_ne apart _ _⟩
    · exact ⟨rfl,rfl⟩

theorem records_observed (o : Origins) (map : PsMap) (req : PsRequest) (d : Received)
    (source : req.source = d.source) (before : ∀ k t, map k = some t → RecordOrigins o k t) :
    ∀ k t, (psHandle map req).1 k = some t → RecordOrigins (o.psBindRequest map req d) k t := by
  apply psHandle_records
  · intro k t apart found
    obtain ⟨first,second⟩ := origins_other o map req d k apart
    obtain ⟨known,peer,order⟩ := before k t found
    exact ⟨first ▸ known,second ▸ peer,order⟩
  · intro dead
    refine ⟨⟨d,?_,congrArg Endpoint.sockaddr source⟩,fun set => absurd rfl set,fun set => absurd rfl set⟩
    simp [Origins.psBindRequest,dead]
  · intro t alive _
    exact origins_add o map req d t source alive (before _ t (live_stored alive))

theorem bindRequest_map (map : ClientMap) (source : Endpoint) :
    (bindRequest map source.sockaddr).1 = (plainHandle map source).1 :=
  congrArg Prod.fst (bindRequest_eq map source)

theorem bindRequest_sent (map : ClientMap) (source : Endpoint) :
    (bindRequest map source.sockaddr).2.2 = (plainHandle map source).2 :=
  congrArg Prod.snd (bindRequest_eq map source)

theorem psBindRequest_plain (o : Origins) (map : PsMap) (req : PsRequest) (d : Received) :
    (o.psBindRequest map req d).plain = o.plain := by
  unfold Origins.psBindRequest
  split
  · rfl
  · split <;> rfl

theorem plain_observed (o : Origins) (map : ClientMap) (d : Received) :
    ∀ a, (plainHandle map d.source).1 0 = some a →
      ∃ r, (o.bindRequest map d).plain 0 = some r ∧ a = r.source.sockaddr := by
  intro a found
  unfold plainHandle at found
  cases stored : map 0 with
  | none =>
    simp only [stored,Function.update_self,Option.some.injEq] at found
    exact ⟨d,by simp [Origins.bindRequest,stored],found.symm⟩
  | some copeer => simp [stored] at found

theorem tracked_step (s : UdpServer × Origins) (d : Received) (before : Tracked s) :
    Tracked (observe s d).1 := by
  obtain ⟨s,o⟩ := s
  obtain ⟨plain,records⟩ := before
  cases typed : (s.buffer d).type with
  | none =>
    simp only [observe,handle,typed]
    exact ⟨plain,records⟩
  | some type =>
    cases type with
    | psBindRequest =>
      have next := records_observed o s.psTransactionClientMap (s.psRequest d) d rfl records
      simp only [observe,handle,typed]
      exact ⟨psBindRequest_plain o _ _ d ▸ plain,next⟩
    | bindRequest =>
      have next := plain_observed o s.transactionClientMap d
      simp only [observe,handle,typed,bindRequest_map]
      refine ⟨next,fun k t found => ?_⟩
      obtain ⟨first,second,order⟩ := records k t found
      exact ⟨first,second,order⟩
    | _ =>
      simp only [observe,handle,typed]
      exact ⟨plain,records⟩

theorem matched_known (t : PsTransaction) (req : PsRequest) (done : matched t req)
    (order : t.cl2Sk2.sinAddr ≠ 0 → t.cl2Sk1.sinAddr ≠ 0) :
    (t.add req).cl1Sk1 = t.cl1Sk1 ∧ (t.add req).cl2Sk1 = t.cl2Sk1 ∧ t.cl2Sk1.sinAddr ≠ 0 := by
  refine ⟨t.add_cl1Sk1 req,?_⟩
  obtain ⟨foreign,both⟩ := done
  cases slot : t.slot req.source.addr with
  | cl1Port2 => exact absurd slot foreign
  | cl2Port1 =>
    have empty := ((t.slot_cl2Port1 _).mp slot).2
    have set := both.1
    rw [PsTransaction.add_cl2Port1 slot] at set
    exact absurd empty (order set)
  | cl2Port2 =>
    rw [PsTransaction.add_cl2Port2 slot]
    exact ⟨rfl,((t.slot_cl2Port2 _).mp slot).2.1⟩
  | third =>
    rw [PsTransaction.add_third slot]
    exact ⟨rfl,((t.slot_third _).mp slot).2.1⟩

theorem psAnswers_iff (s : UdpServer × Origins) (d : Received) (tracked : Tracked s)
    (typed : (s.1.buffer d).type = some .psBindRequest) :
    AnswersWhereKnown s d ↔ KnownOnFirst s d := by
  obtain ⟨s,o⟩ := s
  have sent : (observe (s,o) d).2 = (psHandle s.psTransactionClientMap (s.psRequest d)).2 := by
    simp only [observe,handle,typed,psHandle]
  have acked : AnswersTo (ack (s.psRequest d)) d := ⟨rfl,rfl⟩
  simp only [AnswersWhereKnown,KnownOnFirst,madeKnown,typed,sent]
  cases alive : live s.psTransactionClientMap (s.psRequest d) with
  | none =>
    rw [psHandle_opened alive]
    simp [acked]
  | some t =>
    have found := live_stored alive
    obtain ⟨⟨r1,first,sk11⟩,second,order⟩ := tracked.records _ t found
    by_cases done : matched t (s.psRequest d)
    · obtain ⟨same1,same2,set⟩ := matched_known t _ done order
      obtain ⟨r2,second,sk21⟩ := second set
      rw [psHandle_matched alive done]
      have to1 (m : Message) : AnswersTo ⟨.first,t.cl1Sk1,m⟩ r1 ↔ r1.socket = .first := by
        simp [AnswersTo,sk11,eq_comm]
      have to2 (m : Message) : AnswersTo ⟨.first,t.cl2Sk1,m⟩ r2 ↔ r2.socket = .first := by
        simp [AnswersTo,sk21,eq_comm]
      simp only at first second
      simp only [first,second,done,replies,same1,same2,to1,to2,acked,if_true,Option.toList_some,
        List.singleton_append,List.forall₂_cons,List.forall₂_nil_right_iff,true_and,and_true,
        Option.some.injEq,forall_eq',forall_const]
      constructor
      · rintro ⟨one,two⟩ r (rfl | rfl)
        · exact one
        · exact two
      · intro all
        exact ⟨all r1 (Or.inl rfl),all r2 (Or.inr rfl)⟩
    · rw [psHandle_kept alive done]
      simp [acked,done]

structure TrackedOnFirst (s : UdpServer × Origins) : Prop extends Tracked s where
  plainFirst : ∀ r, s.2.plain 0 = some r → r.socket = .first

theorem plainAnswers_iff (s : UdpServer × Origins) (d : Received) (tracked : TrackedOnFirst s)
    (typed : (s.1.buffer d).type = some .bindRequest) :
    AnswersWhereKnown s d ↔ KnownOnFirst s d := by
  obtain ⟨s,o⟩ := s
  have sent : (observe (s,o) d).2 = (plainHandle s.transactionClientMap d.source).2 := by
    simp only [observe,handle,typed,bindRequest_sent]
  have toSender (m : Message) : AnswersTo ⟨.first,d.source.sockaddr,m⟩ d ↔ d.socket = .first := by
    simp [AnswersTo,eq_comm]
  simp only [AnswersWhereKnown,KnownOnFirst,madeKnown,typed,sent,plainHandle]
  cases stored : s.transactionClientMap 0 with
  | none => simp [ackPlain,toSender]
  | some copeer =>
    obtain ⟨r,found,same⟩ := tracked.plain copeer stored
    have onFirst := tracked.plainFirst r found
    have toStored (m : Message) : AnswersTo ⟨.first,copeer,m⟩ r := ⟨same,onFirst.symm⟩
    simp only at found
    simp [ackPlain,toSender,found,toStored]

theorem answers_iff (s : UdpServer × Origins) (d : Received) (tracked : TrackedOnFirst s) :
    AnswersWhereKnown s d ↔ KnownOnFirst s d := by
  cases typed : (s.1.buffer d).type with
  | none => simp [AnswersWhereKnown,KnownOnFirst,madeKnown,observe,handle,typed]
  | some type =>
    cases type with
    | psBindRequest => exact psAnswers_iff s d tracked.toTracked typed
    | bindRequest => exact plainAnswers_iff s d tracked typed
    | heartbeat =>
      simp [AnswersWhereKnown,KnownOnFirst,madeKnown,observe,handle,typed,AnswersTo,eq_comm]
    | _ => simp [AnswersWhereKnown,KnownOnFirst,madeKnown,observe,handle,typed]

theorem trackedOnFirst_step (s : UdpServer × Origins) (d : Received) (before : TrackedOnFirst s)
    (onFirst : KnownOnFirst s d) : TrackedOnFirst (observe s d).1 := by
  obtain ⟨s,o⟩ := s
  refine ⟨tracked_step (s,o) d before.toTracked,?_⟩
  have plainFirst := before.plainFirst
  cases typed : (s.buffer d).type with
  | none =>
    simp only [observe,typed]
    exact plainFirst
  | some type =>
    cases type with
    | psBindRequest =>
      simp only [observe,typed]
      exact psBindRequest_plain o _ _ d ▸ plainFirst
    | bindRequest =>
      simp only [KnownOnFirst,typed] at onFirst
      simp only [observe,typed,Origins.bindRequest,Function.update_self]
      intro r found
      split at found
      · rw [← Option.some.inj found]
        exact onFirst
      · contradiction
    | _ =>
      simp only [observe,typed]
      exact plainFirst

/-- Every datagram of a run leaves through the socket its recipient became known on,
exactly when the senders make themselves known on the first socket. -/
theorem answers_whereKnown_iff (ds : List Received) :
    Along observe AnswersWhereKnown (init,Origins.empty) ds ↔
      Along observe KnownOnFirst (init,Origins.empty) ds := by
  apply along_congr TrackedOnFirst
  · exact trackedOnFirst_step
  · exact answers_iff
  · exact ⟨⟨nofun,nofun⟩,nofun⟩

theorem secondSocket_not_whereKnown :
    ¬Along observe AnswersWhereKnown (init,Origins.empty)
      [(FullDatagram.ofRequest .bindRequest 7 ⟨1,10⟩ .second 0).toReceived] := by
  rintro ⟨answers,_⟩
  have typed := (FullDatagram.ofRequest .bindRequest 7 ⟨1,10⟩ .second 0).buffer_type init
  simp only [AnswersWhereKnown,madeKnown,observe,handle,typed] at answers
  obtain ⟨⟨_,socket⟩,_⟩ := List.forall₂_cons.mp answers
  exact absurd socket (by decide)

end P2pStun.UdpServer
