import P2pStun.PsFiling

/-! The port-scanning record as a reading of the requests received. A record is
determined by the request that created it and the later requests for its id, and
the replies are the two halves of that reading, each sent to the other client. -/
namespace P2pStun.UdpServer
open Runs

def endpointOf (q : Option PsRequest) : SockaddrIn := (q.map (·.source.sockaddr)).getD .zero
def timeOf (q : Option PsRequest) : UInt64 := (q.map (·.clock1)).getD 0

def fromAddr (addr : UInt32) (q : PsRequest) : Bool := q.source.addr == addr

/-- What the requests after a creation say: the latest from the creator's address,
the first from another address, and the latest from that address after it. -/
def reading (c : PsRequest) (later : List PsRequest) : PsTransaction :=
  let second := (later.filter (fromAddr c.source.addr)).getLast?
  let others := later.dropWhile (fromAddr c.source.addr)
  let peer := others.head?
  let peerSecond := peer.bind fun p => (others.tail.filter (fromAddr p.source.addr)).getLast?
  { cl1Sk1 := c.source.sockaddr, cl1Ts1 := c.clock1
    cl1Sk2 := endpointOf second, cl1Ts2 := timeOf second
    cl2Sk1 := endpointOf peer, cl2Ts1 := timeOf peer
    cl2Sk2 := endpointOf peerSecond, cl2Ts2 := timeOf peerSecond }

def Creates (past : List PsRequest) (c : PsRequest) : Prop :=
  live (run psHandle (fun _ => none) past) c = none

/-- The record of an id as the requests received so far determine it. -/
def Reads (past : List PsRequest) (k : UInt32) (t : PsTransaction) : Prop :=
  ∃ before c after, past = before ++ c :: after ∧ c.transactionId = k ∧ Creates before c ∧
    (∀ mid d rest, after = mid ++ d :: rest → d.transactionId = k → ¬Creates (before ++ c :: mid) d) ∧
    t = reading c (after.filter (fun q => q.transactionId == k))

theorem reading_nil (c : PsRequest) : reading c [] = .create c.source.sockaddr c.clock1 := rfl

theorem reading_concat (c d : PsRequest) (later : List PsRequest)
    (routed : ∀ q ∈ later, q.source.addr ≠ 0) (once : d.clock1 = d.clock2) :
    reading c (later ++ [d]) = (reading c later).add d := by
  by_cases own : c.source.addr = d.source.addr
  · have slot : (reading c later).slot d.source.addr = .cl1Port2 :=
      (PsTransaction.slot_cl1Port2 _ _).mpr own
    have mine : fromAddr c.source.addr d = true := by simp [fromAddr,own]
    simp only [PsTransaction.add,slot]
    cases others : later.dropWhile (fromAddr c.source.addr) with
    | nil => simp [reading,List.dropWhile_append,others,mine,endpointOf,timeOf,once]
    | cons p rest =>
      have foreign := List.head_dropWhile_not (fromAddr c.source.addr) (l := later) (by simp [others])
      simp only [others,List.head_cons] at foreign
      have kept : fromAddr p.source.addr d = false := by
        simp only [fromAddr,beq_eq_false_iff_ne] at foreign ⊢
        rw [← own]
        exact Ne.symm foreign
      simp [reading,List.dropWhile_append,others,mine,kept,endpointOf,timeOf,once]
  · have other : fromAddr c.source.addr d = false := by
      simpa [fromAddr] using Ne.symm own
    cases others : later.dropWhile (fromAddr c.source.addr) with
    | nil =>
      have slot : (reading c later).slot d.source.addr = .cl2Port1 :=
        (PsTransaction.slot_cl2Port1 _ _).mpr ⟨own,by simp only [reading,others]; rfl⟩
      simp only [PsTransaction.add,slot]
      simp [reading,List.dropWhile_append,others,other,endpointOf,timeOf,once]
    | cons p rest =>
      have member : p ∈ later :=
        (List.dropWhile_suffix (fromAddr c.source.addr)).subset (by simp [others])
      have stored : (reading c later).cl2Sk1 = p.source.sockaddr := by
        simp [reading,others,endpointOf]
      have set : (reading c later).cl2Sk1.sinAddr ≠ 0 := by
        rw [stored]
        exact routed p member
      by_cases peer : p.source.addr = d.source.addr
      · have slot : (reading c later).slot d.source.addr = .cl2Port2 :=
          (PsTransaction.slot_cl2Port2 _ _).mpr ⟨own,set,by rw [stored]; exact peer⟩
        have same : fromAddr p.source.addr d = true := by simp [fromAddr,peer]
        simp only [PsTransaction.add,slot]
        simp [reading,List.dropWhile_append,others,other,same,endpointOf,timeOf,once]
      · have slot : (reading c later).slot d.source.addr = .third :=
          (PsTransaction.slot_third _ _).mpr ⟨own,set,by rw [stored]; exact peer⟩
        have apart : fromAddr p.source.addr d = false := by simpa [fromAddr] using Ne.symm peer
        simp only [PsTransaction.add,slot]
        simp [reading,List.dropWhile_append,others,other,apart]

theorem reads_creation (past : List PsRequest) (c : PsRequest) (creates : Creates past c) :
    Reads (past ++ [c]) c.transactionId (.create c.source.sockaddr c.clock1) := by
  refine ⟨past,c,[],rfl,rfl,creates,?_,(reading_nil c).symm⟩
  intro mid d rest split
  simp at split

theorem reads_concat (past : List PsRequest) (d : PsRequest) (k : UInt32) (t : PsTransaction)
    (reads : Reads past k t) (routed : ∀ q ∈ past, q.source.addr ≠ 0) (once : d.clock1 = d.clock2)
    (kept : d.transactionId = k → ¬Creates past d) :
    Reads (past ++ [d]) k (if d.transactionId = k then t.add d else t) := by
  obtain ⟨before,c,after,rfl,id,creates,unbroken,rfl⟩ := reads
  refine ⟨before,c,after ++ [d],by simp,id,creates,?_,?_⟩
  · intro mid e rest split same
    rcases List.eq_nil_or_concat rest with rfl | ⟨rest,last,rfl⟩
    · obtain ⟨rfl,rfl⟩ := List.append_inj' split rfl |>.imp_right (by simpa using ·)
      exact kept same
    · have shorter : after ++ [d] = (mid ++ e :: rest) ++ [last] := by simpa using split
      exact unbroken mid e rest (List.append_inj' shorter rfl).1 same
  · have inside : ∀ q ∈ after.filter (fun q => q.transactionId == k), q.source.addr ≠ 0 := by
      intro q member
      exact routed q (by simp [List.mem_of_mem_filter member])
    split_ifs with same
    · simp only [List.filter_append,List.filter_cons,same,beq_self_eq_true,if_true,List.filter_nil]
      exact (reading_concat c d _ inside once).symm
    · simp [same]

/-- The two replies of a match: each client gets exactly the other one's half. -/
def Mirrors (t : PsTransaction) (sent : List Sent) : Prop :=
  ∃ toFirst toSecond : Message,
    psReplies sent = [⟨.first,t.cl1Sk1,toFirst⟩,⟨.first,t.cl2Sk1,toSecond⟩] ∧
    toFirst.psBindReply = ⟨t.cl2Sk1,t.cl2Sk2,t.cl2Ts1,t.cl2Ts2⟩ ∧
    toSecond.psBindReply = ⟨t.cl1Sk1,t.cl1Sk2,t.cl1Ts1,t.cl1Ts2⟩

theorem replies_mirror (t : PsTransaction) (req : PsRequest) : Mirrors t (ack req :: replies t) := by
  refine ⟨replyMessage t.aboutSecond,replyMessage t.aboutFirst,?_,?_,?_⟩
  · rw [psReplies_matched,replies]
  · exact replyMessage_psBindReply _
  · exact replyMessage_psBindReply _

abbrev serveClocked : Machine UdpServer ClockedRequest Sent := serve (fun d => d.toReceived)

theorem serveClocked_map (ds : List ClockedRequest) :
    (run serveClocked init ds).psTransactionClientMap =
      run psHandle (fun _ => none) (ds.map (·.psRequest)) :=
  run_view (fun s : UdpServer => s.psTransactionClientMap) (fun d : ClockedRequest => d.psRequest)
    (fun s d => (handle_psBindRequest s d.toFullDatagram).1) init ds

theorem reads_step (past : List ClockedRequest) (d : ClockedRequest)
    (before : ∀ k t, (run serveClocked init past).psTransactionClientMap k = some t →
      Reads (past.map (·.psRequest)) k t) :
    (∀ k t, (run serveClocked init (past ++ [d])).psTransactionClientMap k = some t →
      Reads ((past ++ [d]).map (·.psRequest)) k t) ∧
    (psReplies (serveClocked (run serveClocked init past) d).2 = [] ∨
      ∃ t, Reads ((past ++ [d]).map (·.psRequest)) d.transactionId t ∧
        Mirrors t (serveClocked (run serveClocked init past) d).2) := by
  obtain ⟨map,sent⟩ := handle_psBindRequest (run serveClocked init past) d.toFullDatagram
  have once : d.psRequest.clock1 = d.psRequest.clock2 := d.oneReading
  have routed : ∀ q ∈ past.map (fun e => e.psRequest), q.source.addr ≠ 0 := by
    intro q member
    obtain ⟨e,_,rfl⟩ := List.mem_map.mp member
    exact e.routed
  have added (t : PsTransaction)
      (alive : live (run serveClocked init past).psTransactionClientMap d.psRequest = some t) :
      Reads ((past ++ [d]).map (·.psRequest)) d.transactionId (t.add d.psRequest) := by
    have kept : ¬Creates (past.map (·.psRequest)) d.psRequest := by
      rw [Creates,← serveClocked_map,alive]
      exact Option.some_ne_none t
    have extended := reads_concat _ d.psRequest d.transactionId t
      (before d.transactionId t (live_stored alive)) routed once (fun _ => kept)
    rw [if_pos (show d.psRequest.transactionId = d.transactionId from rfl)] at extended
    rw [List.map_append]
    exact extended
  rw [run_concat,show serveClocked = serve (fun d : ClockedRequest => d.toReceived) from rfl,serve,map,sent]
  constructor
  · apply psHandle_records
    · intro k t apart found
      have extended := reads_concat _ d.psRequest k t (before k t found) routed once
        (fun same => absurd same.symm apart)
      simpa [Ne.symm apart] using extended
    · intro dead
      have creates : Creates (past.map (·.psRequest)) d.psRequest := by
        rw [Creates,← serveClocked_map,dead]
      rw [openTime_once _ _ once,List.map_append]
      exact reads_creation _ _ creates
    · intro t alive _
      exact added t alive
  · refine (psHandle_silent_or_matched _ _).imp_right ?_
    rintro ⟨t,alive,_,sent⟩
    rw [sent]
    exact ⟨t.add d.psRequest,added t alive,replies_mirror _ _⟩

/-- The records after a run of requests, and the replies of each of its steps, are
the ones the requests received so far determine. -/
theorem records_read_history (ds : List ClockedRequest) :
    (∀ k t, (run serveClocked init ds).psTransactionClientMap k = some t →
      Reads (ds.map (·.psRequest)) k t) ∧
    ∀ past d rest, ds = past ++ d :: rest →
      psReplies (serveClocked (run serveClocked init past) d).2 = [] ∨
        ∃ t, Reads ((past ++ [d]).map (·.psRequest)) d.transactionId t ∧
          Mirrors t (serveClocked (run serveClocked init past) d).2 := by
  have records (past : List ClockedRequest) : ∀ k t,
      (run serveClocked init past).psTransactionClientMap k = some t →
        Reads (past.map (·.psRequest)) k t := by
    refine history_invariant (fun past (s : UdpServer) => ∀ k t, s.psTransactionClientMap k = some t →
      Reads (past.map (·.psRequest)) k t) ?_ ?_ past
    · intro k t found
      contradiction
    · intro past d before
      rw [← run_concat]
      exact (reads_step past d before).1
  refine ⟨records ds,?_⟩
  intro past d rest _
  exact (reads_step past d (records past)).2

/-- When there is a record and when there are replies: a request leaves its id without a
record exactly if it is answered by replies, and it is answered so exactly if it completes
the live record of its id without being the first client's. -/
theorem replied_iff_matched (past : List ClockedRequest) (d : ClockedRequest) :
    ((run serveClocked init (past ++ [d])).psTransactionClientMap d.transactionId = none ↔
      psReplies (serveClocked (run serveClocked init past) d).2 ≠ []) ∧
    (psReplies (serveClocked (run serveClocked init past) d).2 ≠ [] ↔
      ∃ t, live (run serveClocked init past).psTransactionClientMap d.psRequest = some t ∧
        matched t d.psRequest) := by
  obtain ⟨map,sent⟩ := handle_psBindRequest (run serveClocked init past) d.toFullDatagram
  rw [run_concat,show serveClocked = serve (fun d : ClockedRequest => d.toReceived) from rfl,serve,map,sent]
  have id : d.transactionId = d.psRequest.transactionId := rfl
  rw [id]
  generalize (run (serve fun d : ClockedRequest => d.toReceived) init past).psTransactionClientMap = records
  cases alive : live records d.psRequest with
  | none =>
    rw [psHandle_opened alive,psReplies_ack]
    simp
  | some t =>
    by_cases done : matched t d.psRequest
    · rw [psHandle_matched alive done,psReplies_matched]
      simp [replies,done]
    · rw [psHandle_kept alive done,psReplies_ack]
      simp [done]

def clockedRequest (addr : UInt32) (port : UInt16) (socket : ServerSocket) (time : UInt64)
    (routed : addr ≠ 0) : ClockedRequest :=
  ⟨⟨scanRequest addr port socket time,routed⟩,rfl⟩

theorem pair_reads_history :
    let past := [clockedRequest 1 10 .first 0 (by decide),clockedRequest 2 20 .first 1 (by decide),
      clockedRequest 1 11 .second 2 (by decide)]
    let last := clockedRequest 2 21 .second 3 (by decide)
    (∃ t, (run serveClocked init past).psTransactionClientMap 7 = some t ∧
      Reads (past.map (·.psRequest)) 7 t) ∧
    ∃ t, Reads ((past ++ [last]).map (·.psRequest)) 7 t ∧
      Mirrors t (serveClocked (run serveClocked init past) last).2 := by
  intro past last
  have stored : ((run serveClocked init past).psTransactionClientMap 7).isSome = true := by decide +kernel
  have answered : psReplies (serveClocked (run serveClocked init past) last).2 ≠ [] := by decide +kernel
  obtain ⟨t,found⟩ := Option.isSome_iff_exists.mp stored
  obtain ⟨u,reads,mirrors⟩ :=
    ((records_read_history (past ++ [last])).2 past last [] rfl).resolve_left answered
  have id : last.transactionId = 7 := by decide +kernel
  rw [id] at reads
  exact ⟨⟨t,found,(records_read_history past).1 7 t found⟩,u,reads,mirrors⟩

end P2pStun.UdpServer
