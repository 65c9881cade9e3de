import P2pStun.PsFiling

/-! Duplicated port-scanning requests. A copy of a second request is filed over it,
but a copy of a request that made its client known is filed as that client's second
one. Records that differ in the second times only are answered alike. -/
namespace P2pStun.UdpServer
open Runs

def SameEndpoints (t u : PsTransaction) : Prop :=
  t.cl1Sk1 = u.cl1Sk1 ∧ t.cl1Sk2 = u.cl1Sk2 ∧ t.cl2Sk1 = u.cl2Sk1 ∧ t.cl2Sk2 = u.cl2Sk2

def Alike (t u : PsTransaction) : Prop := t.cl1Ts1 = u.cl1Ts1 ∧ SameEndpoints t u

def AlikeMaps (m n : PsMap) : Prop := ∀ k, Option.Rel Alike (m k) (n k)

/-- What a reply tells to whom, without the times. -/
def introduction (x : Sent) : Option (SockaddrIn × SockaddrIn × SockaddrIn) :=
  if isPsBindReply x then some (x.dest,x.message.psBindReply.addrOne,x.message.psBindReply.addrTwo)
  else none

theorem alike_refl (t : PsTransaction) : Alike t t := ⟨rfl,rfl,rfl,rfl,rfl⟩

theorem alikeMaps_refl (m : PsMap) : AlikeMaps m m := by
  intro k
  cases m k with
  | none => exact .none
  | some t => exact .some (alike_refl t)

theorem alikeMaps_update {m n : PsMap} (alike : AlikeMaps m n) (k : UInt32)
    {a b : Option PsTransaction} (entry : Option.Rel Alike a b) :
    AlikeMaps (Function.update m k a) (Function.update n k b) := by
  intro j
  rw [Function.update_apply,Function.update_apply]
  split_ifs
  · exact entry
  · exact alike j

theorem slot_alike {t u : PsTransaction} (alike : Alike t u) (addr : UInt32) :
    t.slot addr = u.slot addr := by
  obtain ⟨_,sk11,_,sk21,_⟩ := alike
  simp only [PsTransaction.slot,sk11,sk21]

theorem complete_alike {t u : PsTransaction} (alike : Alike t u) : t.complete ↔ u.complete := by
  obtain ⟨_,_,sk12,_,sk22⟩ := alike
  simp only [PsTransaction.complete,sk12,sk22]

theorem add_alike {t u : PsTransaction} (alike : Alike t u) (req : PsRequest) :
    Alike (t.add req) (u.add req) := by
  have slot := slot_alike alike req.source.addr
  obtain ⟨ts,sk11,sk12,sk21,sk22⟩ := alike
  simp only [PsTransaction.add,slot]
  cases u.slot req.source.addr with
  | cl1Port2 => exact ⟨ts,sk11,rfl,sk21,sk22⟩
  | cl2Port1 => exact ⟨ts,sk11,sk12,rfl,sk22⟩
  | cl2Port2 => exact ⟨ts,sk11,sk12,sk21,rfl⟩
  | third => exact ⟨ts,sk11,sk12,sk21,sk22⟩

theorem introduction_ack (req : PsRequest) : introduction (ack req) = none := by
  simp [introduction,ack_not_reply]

theorem introduction_reply (dest : SockaddrIn) (r : PsBindReply) :
    introduction ⟨.first,dest,replyMessage r⟩ = some (dest,r.addrOne,r.addrTwo) := by
  simp [introduction,isPsBindReply]

theorem introductions_replies (req : PsRequest) (t : PsTransaction) :
    (ack req :: replies t).filterMap introduction =
      [(t.cl1Sk1,t.cl2Sk1,t.cl2Sk2),(t.cl2Sk1,t.cl1Sk1,t.cl1Sk2)] := by
  rw [List.filterMap_cons,introduction_ack]
  simp only [replies,List.filterMap_cons,introduction_reply,List.filterMap_nil]
  rfl

theorem live_alike {m n : PsMap} (alike : AlikeMaps m n) (req : PsRequest) :
    (live m req = none ↔ live n req = none) ∧
      ∀ t, live m req = some t → ∃ u, live n req = some u ∧ Alike t u := by
  have entry := alike req.transactionId
  unfold live
  generalize m req.transactionId = a at entry
  generalize n req.transactionId = b at entry
  cases entry with
  | none => simp
  | @some t u same =>
    have together : t.expired req.clock1 ↔ u.expired req.clock1 := by
      simp only [PsTransaction.expired,same.1]
    by_cases old : u.expired req.clock1
    · simp [Option.filter,together,old]
    · simpa [Option.filter,together,old] using same

theorem openTime_alike {m n : PsMap} (alike : AlikeMaps m n) (req : PsRequest) :
    openTime m req = openTime n req := by
  have entry := alike req.transactionId
  unfold openTime
  generalize m req.transactionId = a at entry
  generalize n req.transactionId = b at entry
  cases entry with
  | none => rfl
  | some _ => rfl

theorem psHandle_alike (m n : PsMap) (req : PsRequest) (alike : AlikeMaps m n) :
    AlikeMaps (psHandle m req).1 (psHandle n req).1 ∧
      (psHandle m req).2.filterMap introduction = (psHandle n req).2.filterMap introduction := by
  obtain ⟨dead,alive⟩ := live_alike alike req
  cases left : live m req with
  | none =>
    rw [psHandle_opened left,psHandle_opened (dead.mp left)]
    refine ⟨alikeMaps_update alike _ (.some ?_),by simp [introduction_ack]⟩
    exact ⟨openTime_alike alike req,rfl,rfl,rfl,rfl⟩
  | some t =>
    obtain ⟨u,right,same⟩ := alive t left
    have added := add_alike same req
    have together : matched t req ↔ matched u req := by
      simp only [matched,slot_alike same,complete_alike added]
    by_cases done : matched u req
    · rw [psHandle_matched left (together.mpr done),psHandle_matched right done]
      refine ⟨alikeMaps_update alike _ .none,?_⟩
      rw [introductions_replies,introductions_replies]
      obtain ⟨_,sk11,sk12,sk21,sk22⟩ := added
      rw [sk11,sk12,sk21,sk22]
    · rw [psHandle_kept left (together.not.mpr done),psHandle_kept right done]
      exact ⟨alikeMaps_update alike _ (.some added),by simp [introduction_ack]⟩

/-- The request makes its client known: it opens the record, or it fills the empty
first endpoint of the second client from an address other than zero. -/
def MakesKnown (map : PsMap) (req : PsRequest) : Prop :=
  live map req = none ∨
    ∃ t, live map req = some t ∧ t.slot req.source.addr = .cl2Port1 ∧ req.source.addr ≠ 0

instance (map : PsMap) (req : PsRequest) : Decidable (MakesKnown map req) :=
  inferInstanceAs (Decidable (_ ∨ ∃ t ∈ live map req, _ ∧ _))

def InOrder (map : PsMap) : Prop :=
  ∀ k t, map k = some t → t.cl2Sk2.sinAddr ≠ 0 → t.cl2Sk1.sinAddr ≠ 0

theorem inOrder_step (map : PsMap) (req : PsRequest) (before : InOrder map) :
    InOrder (psHandle map req).1 := by
  apply psHandle_records (fun k t _ => before k t)
  · intro _ set
    exact absurd rfl set
  · intro t alive _
    have order := before _ t (live_stored alive)
    cases slot : t.slot req.source.addr with
    | cl1Port2 =>
      rw [PsTransaction.add_cl1Port2 slot]
      exact order
    | cl2Port1 =>
      have empty := ((t.slot_cl2Port1 _).mp slot).2
      rw [PsTransaction.add_cl2Port1 slot]
      exact fun set => absurd empty (order set)
    | cl2Port2 =>
      rw [PsTransaction.add_cl2Port2 slot]
      exact fun _ => ((t.slot_cl2Port2 _).mp slot).2.1
    | third =>
      rw [PsTransaction.add_third slot]
      exact order

theorem add_again (t : PsTransaction) (req copy : PsRequest) (source : copy.source = req.source)
    (settled : t.slot req.source.addr = .cl2Port1 → req.source.addr = 0) :
    (t.add req).slot copy.source.addr = t.slot req.source.addr ∧
      Alike (t.add req) ((t.add req).add copy) := by
  have again : (t.add req).slot req.source.addr = t.slot req.source.addr := by
    cases slot : t.slot req.source.addr with
    | cl1Port2 =>
      have own := (t.slot_cl1Port2 _).mp slot
      rw [PsTransaction.slot_cl1Port2,PsTransaction.add_cl1Port2 slot]
      exact own
    | cl2Port1 =>
      have apart := ((t.slot_cl2Port1 _).mp slot).1
      rw [PsTransaction.slot_cl2Port1,PsTransaction.add_cl2Port1 slot]
      exact ⟨apart,settled slot⟩
    | cl2Port2 =>
      have peer := (t.slot_cl2Port2 _).mp slot
      rw [PsTransaction.slot_cl2Port2,PsTransaction.add_cl2Port2 slot]
      exact peer
    | third =>
      rw [PsTransaction.add_third slot]
      exact slot
  have followed : (t.add req).slot copy.source.addr = t.slot req.source.addr := by
    rw [source]
    exact again
  refine ⟨followed,?_⟩
  cases slot : t.slot req.source.addr with
  | cl1Port2 =>
    rw [PsTransaction.add_cl1Port2 (followed.trans slot),PsTransaction.add_cl1Port2 slot,source]
    exact ⟨rfl,rfl,rfl,rfl,rfl⟩
  | cl2Port1 =>
    rw [PsTransaction.add_cl2Port1 (followed.trans slot),PsTransaction.add_cl2Port1 slot,source]
    exact ⟨rfl,rfl,rfl,rfl,rfl⟩
  | cl2Port2 =>
    rw [PsTransaction.add_cl2Port2 (followed.trans slot),PsTransaction.add_cl2Port2 slot,source]
    exact ⟨rfl,rfl,rfl,rfl,rfl⟩
  | third =>
    rw [PsTransaction.add_third (followed.trans slot)]
    exact alike_refl _

theorem live_after {map : PsMap} {req copy : PsRequest} {t u : PsTransaction}
    (id : copy.transactionId = req.transactionId) (alive : live map req = some t)
    (after : live (psHandle map req).1 copy = some u) : ¬matched t req ∧ u = t.add req := by
  have found := live_stored after
  by_cases done : matched t req
  · simp [psHandle_matched alive done,id] at found
  · simp only [psHandle_kept alive done,id,Function.update_self,Option.some.injEq] at found
    exact ⟨done,found.symm⟩

theorem copy_alike (map : PsMap) (req copy : PsRequest) (t : PsTransaction)
    (id : copy.transactionId = req.transactionId) (source : copy.source = req.source)
    (after : live (psHandle map req).1 copy = some t) (unknown : ¬MakesKnown map req) :
    ∃ u, psHandle (psHandle map req).1 copy =
        (Function.update (psHandle map req).1 copy.transactionId (some u),[ack copy]) ∧ Alike t u := by
  simp only [MakesKnown,not_or,not_exists,not_and,ne_eq,not_not] at unknown
  obtain ⟨t₀,alive⟩ := Option.ne_none_iff_exists'.mp unknown.1
  obtain ⟨pending,rfl⟩ := live_after id alive after
  obtain ⟨slot,same⟩ := add_again t₀ req copy source (unknown.2 t₀ alive)
  have pending' : ¬matched (t₀.add req) copy := by
    rintro ⟨foreign,both⟩
    rw [slot] at foreign
    exact pending ⟨foreign,(complete_alike same).mpr both⟩
  exact ⟨_,psHandle_kept after pending',same⟩

theorem known_second (map : PsMap) (req copy : PsRequest) (t : PsTransaction) (order : InOrder map)
    (id : copy.transactionId = req.transactionId) (after : live (psHandle map req).1 copy = some t)
    (known : MakesKnown map req) :
    (t.slot req.source.addr = .cl1Port2 ∧ t.cl1Sk2 ≠ req.source.sockaddr) ∨
      (t.slot req.source.addr = .cl2Port2 ∧ t.cl2Sk2 ≠ req.source.sockaddr) := by
  rcases known with dead | ⟨t₀,alive,slot,routed⟩
  · have found := live_stored after
    simp only [psHandle_opened dead,id,Function.update_self,Option.some.injEq] at found
    subst found
    exact Or.inl ⟨(PsTransaction.slot_cl1Port2 _ _).mpr rfl,Ne.symm (Endpoint.sockaddr_ne_zero _)⟩
  · obtain ⟨_,rfl⟩ := live_after id alive after
    obtain ⟨apart,empty⟩ := (t₀.slot_cl2Port1 _).mp slot
    have unset : ¬t₀.cl2Sk2.sinAddr ≠ 0 :=
      fun set => order _ t₀ (live_stored alive) set empty
    have added := PsTransaction.add_cl2Port1 slot
    refine Or.inr ⟨?_,?_⟩
    · rw [PsTransaction.slot_cl2Port2,added]
      exact ⟨apart,routed,rfl⟩
    · intro same
      rw [added] at same
      rw [show t₀.cl2Sk2 = req.source.sockaddr from same] at unset
      exact unset routed

theorem copy_differs (map : PsMap) (req copy : PsRequest) (t : PsTransaction) (order : InOrder map)
    (id : copy.transactionId = req.transactionId) (source : copy.source = req.source)
    (after : live (psHandle map req).1 copy = some t) (known : MakesKnown map req) :
    ∀ u, (psHandle (psHandle map req).1 copy).1 copy.transactionId = some u → ¬SameEndpoints t u := by
  intro u found same
  have second := known_second map req copy t order id after known
  rw [← source] at second
  by_cases done : matched t copy
  · simp [psHandle_matched after done] at found
  · simp only [psHandle_kept after done,Function.update_self,Option.some.injEq] at found
    subst found
    obtain ⟨_,sk12,_,sk22⟩ := same
    rcases second with ⟨slot,new⟩ | ⟨slot,new⟩
    · rw [PsTransaction.add_cl1Port2 slot] at sk12
      exact new sk12
    · rw [PsTransaction.add_cl2Port2 slot] at sk22
      exact new sk22

structure IsCopy (d copy : FullDatagram .psBindRequest) : Prop where
  transactionId : copy.transactionId = d.transactionId
  source : copy.source = d.source
  socket : copy.socket = d.socket

/-- The record holds the same endpoints after the copy as before it, and the runs with
and without the copy introduce the same clients to each other. -/
def CopyHarmless (past : List (FullDatagram .psBindRequest)) (d copy : FullDatagram .psBindRequest)
    (rest : List (FullDatagram .psBindRequest)) : Prop :=
  (∃ t u, (run servePs init (past ++ [d])).psTransactionClientMap d.transactionId = some t ∧
    (run servePs init (past ++ [d,copy])).psTransactionClientMap d.transactionId = some u ∧
    SameEndpoints t u) ∧
  (outputs servePs init (past ++ d :: copy :: rest)).filterMap introduction =
    (outputs servePs init (past ++ d :: rest)).filterMap introduction

theorem inOrder_run (ds : List (FullDatagram .psBindRequest)) :
    InOrder (run servePs init ds).psTransactionClientMap := by
  refine history_invariant (fun _ (s : UdpServer) => InOrder s.psTransactionClientMap) ?_ ?_ ds
  · intro k t found
    contradiction
  · intro past d before
    rw [servePs_map]
    exact inOrder_step _ _ before

theorem introductions_alike {s s' : UdpServer}
    (alike : AlikeMaps s.psTransactionClientMap s'.psTransactionClientMap)
    (ds : List (FullDatagram .psBindRequest)) :
    (outputs servePs s ds).filterMap introduction = (outputs servePs s' ds).filterMap introduction := by
  refine outputs_related (R := fun s s' : UdpServer =>
    AlikeMaps s.psTransactionClientMap s'.psTransactionClientMap) introduction ?_ alike ds
  intro s s' d alike
  rw [servePs_map,servePs_map,servePs_sent,servePs_sent]
  exact psHandle_alike _ _ d.psRequest alike

/-- A duplicate that meets the record it is about does no harm exactly when the request
it copies did not make its client known. -/
theorem copyHarmless_iff (past : List (FullDatagram .psBindRequest))
    (d copy : FullDatagram .psBindRequest) (rest : List (FullDatagram .psBindRequest))
    (duplicate : IsCopy d copy)
    (alive : live (run servePs init (past ++ [d])).psTransactionClientMap copy.psRequest ≠ none) :
    CopyHarmless past d copy rest ↔
      ¬MakesKnown (run servePs init past).psTransactionClientMap d.psRequest := by
  obtain ⟨t,after⟩ := Option.ne_none_iff_exists'.mp alive
  have here : (run servePs init (past ++ [d])).psTransactionClientMap d.transactionId = some t := by
    rw [← duplicate.transactionId]
    exact live_stored after
  have split : run servePs init (past ++ [d,copy]) =
      (servePs (run servePs init (past ++ [d])) copy).1 := by simp
  rw [run_concat,servePs_map] at after
  constructor
  · rintro ⟨⟨t',u,found,found',same⟩,_⟩ known
    rw [here] at found
    cases found
    rw [split,servePs_map,run_concat,servePs_map,← duplicate.transactionId] at found'
    exact copy_differs _ d.psRequest copy.psRequest t (inOrder_run past) duplicate.transactionId
      duplicate.source after known u found' same
  · intro unknown
    obtain ⟨u,step,same⟩ := copy_alike _ d.psRequest copy.psRequest t duplicate.transactionId
      duplicate.source after unknown
    have map : (servePs (run servePs init (past ++ [d])) copy).1.psTransactionClientMap =
        Function.update (run servePs init (past ++ [d])).psTransactionClientMap
          copy.psRequest.transactionId (some u) := by
      rw [servePs_map,run_concat,servePs_map,step]
    have sent : (servePs (run servePs init (past ++ [d])) copy).2 = [ack copy.psRequest] := by
      rw [servePs_sent,run_concat,servePs_map,step]
    have found : (run servePs init (past ++ [d])).psTransactionClientMap
        copy.psRequest.transactionId = some t := by
      rw [← here]
      exact congrArg _ duplicate.transactionId
    refine ⟨⟨t,u,here,?_,same.2⟩,?_⟩
    · rw [split,map,← duplicate.transactionId]
      exact Function.update_self _ _ _
    · have alike : AlikeMaps (servePs (run servePs init (past ++ [d])) copy).1.psTransactionClientMap
          (run servePs init (past ++ [d])).psTransactionClientMap := by
        intro k
        rw [map,Function.update_apply]
        split_ifs with same_id
        · rw [same_id,found]
          exact .some ⟨same.1.symm,same.2.1.symm,same.2.2.1.symm,same.2.2.2.1.symm,same.2.2.2.2.symm⟩
        · exact alikeMaps_refl _ k
      have later := introductions_alike alike rest
      rw [run_concat] at sent later
      simp [List.filterMap_append,sent,introduction_ack,later]

theorem copyHarmless_secondRequest :
    CopyHarmless [scanRequest 1 10 .first 0,scanRequest 2 20 .first 1] (scanRequest 1 11 .second 2)
      (scanRequest 1 11 .second 3) [scanRequest 2 21 .second 4] :=
  (copyHarmless_iff [scanRequest 1 10 .first 0,scanRequest 2 20 .first 1] (scanRequest 1 11 .second 2)
    (scanRequest 1 11 .second 3) _ ⟨by decide,rfl,rfl⟩ (by decide)).mpr (by decide)

/-- The first request of the second client is duplicated: the match comes before its
second request and names its first endpoint twice. -/
theorem peerRequest_not_copyHarmless :
    IsCopy (scanRequest 2 20 .first 2) (scanRequest 2 20 .first 3) ∧
      live (run servePs init [scanRequest 1 10 .first 0,scanRequest 1 11 .second 1,
        scanRequest 2 20 .first 2]).psTransactionClientMap (scanRequest 2 20 .first 3).psRequest ≠ none ∧
      ¬CopyHarmless [scanRequest 1 10 .first 0,scanRequest 1 11 .second 1] (scanRequest 2 20 .first 2)
        (scanRequest 2 20 .first 3) [scanRequest 2 21 .second 4] := by
  refine ⟨⟨by decide,rfl,rfl⟩,by decide,?_⟩
  rintro ⟨_,same⟩
  have ports := congrArg (List.map (fun x => (x.2.1.sinPort,x.2.2.sinPort))) same
  exact absurd ports (by decide)

end P2pStun.UdpServer
