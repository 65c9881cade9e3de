import P2pStun.PsFiling

/-! Successive attempts under one transaction id. A client's first request goes to
the first server socket and its second one to the second, but the handler files
them by address and by the empty slots of the record. Where the two agree at each
step, every reply goes to the latest attempt and describes one attempt. -/
namespace P2pStun.UdpServer
open Runs

def fromClient (addr k : UInt32) (q : PsRequest) : Bool :=
  q.source.addr == addr && q.transactionId == k

def latestFirst (past : List PsRequest) (addr k : UInt32) : Option PsRequest :=
  (past.filter (fun q => fromClient addr k q && q.socket == .first)).getLast?

def IsAttempt (past : List PsRequest) (addr k : UInt32) (e1 e2 : Endpoint) : Prop :=
  ∃ before p mid q after, past = before ++ p :: mid ++ q :: after ∧
    fromClient addr k p = true ∧ p.socket = .first ∧ p.source = e1 ∧
    fromClient addr k q = true ∧ q.socket = .second ∧ q.source = e2 ∧
    ∀ m ∈ mid, fromClient addr k m = false

/-- Each second request follows the first one of its attempt; an attempt may be
abandoned after either. -/
def Attempts (rs : List PsRequest) : Prop :=
  ∀ past d rest, rs = past ++ d :: rest → d.socket = .second →
    ∃ p, (past.filter (fromClient d.source.addr d.transactionId)).getLast? = some p ∧ p.socket = .first

/-- The slot a request is filed in, if any, is one for the socket it arrived on. -/
def FiledAsSent (map : PsMap) (d : PsRequest) : Prop :=
  filedSocket map d = none ∨ filedSocket map d = some d.socket

instance (map : PsMap) (d : PsRequest) : Decidable (FiledAsSent map d) :=
  inferInstanceAs (Decidable (_ ∨ _))

/-- A reply goes to the latest attempt of its recipient and carries both endpoints
of one attempt of the other client. -/
def ServesAttempts (past : List PsRequest) (d : PsRequest) (x : Sent) : Prop :=
  ∃ first addr e1 e2, latestFirst (past ++ [d]) first.source.addr d.transactionId = some first ∧
    x.dest = first.source.sockaddr ∧ addr ≠ first.source.addr ∧
    IsAttempt (past ++ [d]) addr d.transactionId e1 e2 ∧
    x.message.psBindReply.addrOne = e1.sockaddr ∧ x.message.psBindReply.addrTwo = e2.sockaddr

/-- One half of a record: the endpoint of the latest first request of a client and,
if the other is set, both endpoints of one of its attempts. -/
structure HalfOf (past : List PsRequest) (k : UInt32) (sk1 sk2 : SockaddrIn) : Prop where
  first : ∃ p, latestFirst past sk1.sinAddr k = some p ∧ sk1 = p.source.sockaddr
  second : sk2.sinAddr ≠ 0 → ∃ e1 e2, IsAttempt past sk1.sinAddr k e1 e2 ∧
    sk1 = e1.sockaddr ∧ sk2 = e2.sockaddr

structure AttemptRecord (past : List PsRequest) (k : UInt32) (t : PsTransaction) : Prop where
  one : HalfOf past k t.cl1Sk1 t.cl1Sk2
  two : t.cl2Sk1.sinAddr ≠ 0 → HalfOf past k t.cl2Sk1 t.cl2Sk2 ∧ t.cl2Sk1.sinAddr ≠ t.cl1Sk1.sinAddr
  order : t.cl2Sk2.sinAddr ≠ 0 → t.cl2Sk1.sinAddr ≠ 0

theorem attempts_initial (past rest : List PsRequest) (all : Attempts (past ++ rest)) : Attempts past := by
  rintro before d after rfl
  exact all before d (after ++ rest) (by simp)

theorem attempts_concat (past : List PsRequest) (d : PsRequest) :
    Attempts (past ++ [d]) ↔ Attempts past ∧ (d.socket = .second →
      ∃ p, (past.filter (fromClient d.source.addr d.transactionId)).getLast? = some p ∧ p.socket = .first) := by
  constructor
  · intro all
    exact ⟨attempts_initial past [d] all,all past d [] rfl⟩
  · rintro ⟨earlier,last⟩ before e after split
    rcases List.eq_nil_or_concat after with rfl | ⟨after,f,rfl⟩
    · obtain ⟨rfl,same⟩ := List.append_inj' split rfl
      rw [List.singleton_inj.mp same] at last
      exact last
    · have shorter : past ++ [d] = (before ++ e :: after) ++ [f] := by simpa using split
      exact earlier before e after (List.append_inj' shorter rfl).1

theorem isAttempt_append (past rest : List PsRequest) (addr k : UInt32) (e1 e2 : Endpoint)
    (attempt : IsAttempt past addr k e1 e2) : IsAttempt (past ++ rest) addr k e1 e2 := by
  obtain ⟨before,p,mid,q,after,rfl,facts⟩ := attempt
  exact ⟨before,p,mid,q,after ++ rest,by simp,facts⟩

theorem latestFirst_concat (past : List PsRequest) (d : PsRequest) (addr k : UInt32)
    (other : (fromClient addr k d && d.socket == .first) = false) :
    latestFirst (past ++ [d]) addr k = latestFirst past addr k := by
  rw [latestFirst,List.filter_append,List.filter_cons,other]
  simp [latestFirst]

theorem latestFirst_new (past : List PsRequest) (d : PsRequest) (socket : d.socket = .first) :
    latestFirst (past ++ [d]) d.source.addr d.transactionId = some d := by
  simp [latestFirst,List.filter_append,fromClient,socket]

theorem halfOf_concat (past : List PsRequest) (d : PsRequest) (k : UInt32) (sk1 sk2 : SockaddrIn)
    (half : HalfOf past k sk1 sk2) (other : (fromClient sk1.sinAddr k d && d.socket == .first) = false) :
    HalfOf (past ++ [d]) k sk1 sk2 := by
  refine ⟨?_,?_⟩
  · rw [latestFirst_concat past d _ k other]
    exact half.first
  · intro set
    obtain ⟨e1,e2,attempt,same⟩ := half.second set
    exact ⟨e1,e2,isAttempt_append past [d] _ k e1 e2 attempt,same⟩

theorem halfOf_second (past : List PsRequest) (d : PsRequest) (sk1 sk2 : SockaddrIn)
    (half : HalfOf past d.transactionId sk1 sk2) (own : sk1.sinAddr = d.source.addr)
    (socket : d.socket = .second) (order : Attempts (past ++ [d])) :
    HalfOf (past ++ [d]) d.transactionId sk1 d.source.sockaddr := by
  have other : (fromClient sk1.sinAddr d.transactionId d && d.socket == .first) = false := by
    simp [socket]
  obtain ⟨p,latest,zero⟩ := order past d [] rfl socket
  obtain ⟨first,found,same⟩ := half.first
  rw [own] at found
  -- the latest request of the client is a first one, so it is the latest first one
  obtain ⟨before,after,split,mine,none_later⟩ := latest_split latest
  have again : latestFirst past d.source.addr d.transactionId = some p :=
    latest_refine latest (by simp [zero])
  have identical : first = p := Option.some.inj (found.symm.trans again)
  refine ⟨(halfOf_concat past d _ sk1 sk2 half other).first,?_⟩
  intro _
  rw [own,same,identical]
  exact ⟨p.source,d.source,⟨before,p,after,d,[],by simp [split],mine,zero,rfl,
    by simp [fromClient],socket,rfl,none_later⟩,rfl,rfl⟩

theorem attempts_add (past : List PsRequest) (d : PsRequest) (t : PsTransaction)
    (before : AttemptRecord past d.transactionId t) (order : Attempts (past ++ [d]))
    (filed : ∀ i, (t.slot d.source.addr).socket = some i → d.socket = i) :
    AttemptRecord (past ++ [d]) d.transactionId (t.add d) := by
  have away (addr : UInt32) (apart : addr ≠ d.source.addr) :
      (fromClient addr d.transactionId d && d.socket == .first) = false := by
    simp [fromClient,Ne.symm apart]
  cases slot : t.slot d.source.addr with
  | cl1Port2 =>
    have socket := filed _ (congrArg PsTransaction.Slot.socket slot)
    have own := (t.slot_cl1Port2 _).mp slot
    rw [PsTransaction.add_cl1Port2 slot]
    refine ⟨halfOf_second past d _ _ before.one own socket order,?_,before.order⟩
    intro set
    obtain ⟨half,apart⟩ := before.two set
    exact ⟨halfOf_concat past d _ _ _ half (away _ (own ▸ apart)),apart⟩
  | cl2Port1 =>
    have socket := filed _ (congrArg PsTransaction.Slot.socket slot)
    obtain ⟨apart,empty⟩ := (t.slot_cl2Port1 _).mp slot
    have unset : ¬t.cl2Sk2.sinAddr ≠ 0 := fun set => before.order set empty
    rw [PsTransaction.add_cl2Port1 slot]
    refine ⟨halfOf_concat past d _ _ _ before.one (away _ apart),?_,fun set => absurd set unset⟩
    intro _
    exact ⟨⟨⟨d,latestFirst_new past d socket,rfl⟩,fun set => absurd set unset⟩,Ne.symm apart⟩
  | cl2Port2 =>
    have socket := filed _ (congrArg PsTransaction.Slot.socket slot)
    obtain ⟨apart,set,own⟩ := (t.slot_cl2Port2 _).mp slot
    rw [PsTransaction.add_cl2Port2 slot]
    refine ⟨halfOf_concat past d _ _ _ before.one (away _ apart),?_,fun _ => set⟩
    intro _
    exact ⟨halfOf_second past d _ _ (before.two set).1 own socket order,(before.two set).2⟩
  | third =>
    obtain ⟨apart,set,apart'⟩ := (t.slot_third _).mp slot
    rw [PsTransaction.add_third slot]
    refine ⟨halfOf_concat past d _ _ _ before.one (away _ apart),?_,before.order⟩
    intro _
    exact ⟨halfOf_concat past d _ _ _ (before.two set).1 (away _ apart'),(before.two set).2⟩

theorem attempts_create (past : List PsRequest) (d : PsRequest) (time : UInt64) (socket : d.socket = .first) :
    AttemptRecord (past ++ [d]) d.transactionId (.create d.source.sockaddr time) where
  one := ⟨⟨d,latestFirst_new past d socket,rfl⟩,fun set => absurd rfl set⟩
  two set := absurd rfl set
  order set := absurd rfl set

theorem attempts_other (past : List PsRequest) (d : PsRequest) (k : UInt32) (t : PsTransaction)
    (before : AttemptRecord past k t) (apart : k ≠ d.transactionId) :
    AttemptRecord (past ++ [d]) k t := by
  have away (addr : UInt32) : (fromClient addr k d && d.socket == .first) = false := by
    simp [fromClient,Ne.symm apart]
  refine ⟨halfOf_concat past d _ _ _ before.one (away _),?_,before.order⟩
  intro set
  exact ⟨halfOf_concat past d _ _ _ (before.two set).1 (away _),(before.two set).2⟩

theorem replies_serveAttempts (past : List PsRequest) (d : PsRequest) (t : PsTransaction)
    (record : AttemptRecord (past ++ [d]) d.transactionId t) (done : t.complete) :
    ∀ x ∈ replies t, ServesAttempts past d x := by
  obtain ⟨⟨p1,latest1,same1⟩,second1⟩ := record.one
  obtain ⟨⟨⟨p2,latest2,same2⟩,second2⟩,apart⟩ := record.two (record.order done.1)
  obtain ⟨e1,e2,attempt,start,finish⟩ := second1 done.2
  obtain ⟨f1,f2,attempt',start',finish'⟩ := second2 done.1
  have addr1 : t.cl1Sk1.sinAddr = p1.source.addr := congrArg SockaddrIn.sinAddr same1
  have addr2 : t.cl2Sk1.sinAddr = p2.source.addr := congrArg SockaddrIn.sinAddr same2
  intro x member
  rcases List.mem_cons.mp member with rfl | member
  · refine ⟨p1,t.cl2Sk1.sinAddr,f1,f2,addr1 ▸ latest1,same1,addr1 ▸ apart,attempt',?_,?_⟩
    · rw [replyMessage_psBindReply]
      exact start'
    · rw [replyMessage_psBindReply]
      exact finish'
  · rw [List.mem_singleton.mp member]
    refine ⟨p2,t.cl1Sk1.sinAddr,e1,e2,addr2 ▸ latest2,same2,addr2 ▸ Ne.symm apart,attempt,?_,?_⟩
    · rw [replyMessage_psBindReply]
      exact start
    · rw [replyMessage_psBindReply]
      exact finish

theorem attempts_step (past : List PsRequest) (map : PsMap) (d : PsRequest)
    (before : ∀ k t, map k = some t → AttemptRecord past k t) (filed : FiledAsSent map d)
    (order : Attempts (past ++ [d])) :
    (∀ k t, (psHandle map d).1 k = some t → AttemptRecord (past ++ [d]) k t) ∧
      ∀ x ∈ psReplies (psHandle map d).2, ServesAttempts past d x := by
  have socket (i : ServerSocket) (slot : filedSocket map d = some i) : d.socket = i := by
    rcases filed with dropped | same
    · rw [dropped] at slot
      contradiction
    · exact Option.some.inj (same.symm.trans slot)
  unfold filedSocket at socket
  have added (t : PsTransaction) (alive : live map d = some t) :
      AttemptRecord (past ++ [d]) d.transactionId (t.add d) := by
    rw [alive] at socket
    exact attempts_add past d t (before _ t (live_stored alive)) order socket
  constructor
  · apply psHandle_records
    · intro k t apart found
      exact attempts_other past d k t (before k t found) apart
    · intro dead
      rw [dead] at socket
      exact attempts_create past d _ (socket .first rfl)
    · intro t alive _
      exact added t alive
  · apply psHandle_psReplies
    intro t alive done
    exact replies_serveAttempts past d _ (added t alive) done.2

/-- In every run of attempts whose requests are all filed as sent, each reply serves
the latest attempt of its recipient with one attempt of the other client. -/
theorem attempts_served (ds : List (FullDatagram .psBindRequest))
    (attempts : Attempts (ds.map (·.psRequest)))
    (filed : Along servePs (fun s d => FiledAsSent s.psTransactionClientMap d.psRequest) init ds) :
    ∀ past d rest, ds = past ++ d :: rest →
      ∀ x ∈ psReplies (servePs (run servePs init past) d).2,
        ServesAttempts (past.map (·.psRequest)) d.psRequest x := by
  have records (past : List (FullDatagram .psBindRequest))
      (filed : Along servePs (fun s d => FiledAsSent s.psTransactionClientMap d.psRequest) init past) :
      Attempts (past.map (·.psRequest)) →
        ∀ k t, (run servePs init past).psTransactionClientMap k = some t →
          AttemptRecord (past.map (·.psRequest)) k t := by
    refine history_along (fun past (s : UdpServer) => Attempts (past.map (·.psRequest)) →
      ∀ k t, s.psTransactionClientMap k = some t → AttemptRecord (past.map (·.psRequest)) k t)
      ?_ ?_ filed
    · intro _ k t found
      contradiction
    · intro past d before ok order k t found
      rw [List.map_append] at order ⊢
      rw [servePs_map] at found
      exact (attempts_step _ _ _ (before (attempts_initial _ _ order)) ok order).1 k t found
  rintro past d rest rfl
  rw [List.map_append,List.map_cons,← List.singleton_append,← List.append_assoc] at attempts
  rw [along_append] at filed
  have order := attempts_initial _ _ attempts
  rw [servePs_sent]
  exact (attempts_step _ _ _ (records past filed.1 (attempts_initial _ _ order)) filed.2.1 order).2

def twoAttempts : List (FullDatagram .psBindRequest) :=
  [scanRequest 1 10 .first 0,scanRequest 2 20 .first 1,scanRequest 1 11 .second 2,scanRequest 2 21 .second 3]

theorem attempts_served_twoAttempts :
    (psReplies (servePs (run servePs init (twoAttempts.take 3)) (scanRequest 2 21 .second 3)).2).length = 2 ∧
      ∀ x ∈ psReplies (servePs (run servePs init (twoAttempts.take 3)) (scanRequest 2 21 .second 3)).2,
        ServesAttempts ((twoAttempts.take 3).map (·.psRequest)) (scanRequest 2 21 .second 3).psRequest x := by
  refine ⟨by decide,attempts_served twoAttempts ?_ (by decide) (twoAttempts.take 3) _ [] rfl⟩
  have start : Attempts [] := fun past d rest split => by simp at split
  have one := (attempts_concat _ (scanRequest 1 10 .first 0).psRequest).mpr
    ⟨start,fun second => absurd second (by decide)⟩
  have two := (attempts_concat _ (scanRequest 2 20 .first 1).psRequest).mpr
    ⟨one,fun second => absurd second (by decide)⟩
  have three := (attempts_concat _ (scanRequest 1 11 .second 2).psRequest).mpr
    ⟨two,fun _ => ⟨(scanRequest 1 10 .first 0).psRequest,by decide,rfl⟩⟩
  exact (attempts_concat _ (scanRequest 2 21 .second 3).psRequest).mpr
    ⟨three,fun _ => ⟨(scanRequest 2 20 .first 1).psRequest,by decide,rfl⟩⟩

def retriedAttempt : List (FullDatagram .psBindRequest) :=
  [scanRequest 1 10 .first 0,scanRequest 1 12 .first 1000,scanRequest 1 13 .second 2000,
    scanRequest 2 20 .first 3000]

theorem retriedAttempt_not_served :
    Attempts ((retriedAttempt ++ [scanRequest 2 21 .second 4000]).map (·.psRequest)) ∧
      ¬∀ x ∈ psReplies (servePs (run servePs init retriedAttempt) (scanRequest 2 21 .second 4000)).2,
        ServesAttempts (retriedAttempt.map (·.psRequest)) (scanRequest 2 21 .second 4000).psRequest x := by
  constructor
  · have start : Attempts [] := fun past d rest split => by simp at split
    have one := (attempts_concat _ (scanRequest 1 10 .first 0).psRequest).mpr
      ⟨start,fun second => absurd second (by decide)⟩
    have two := (attempts_concat _ (scanRequest 1 12 .first 1000).psRequest).mpr
      ⟨one,fun second => absurd second (by decide)⟩
    have three := (attempts_concat _ (scanRequest 1 13 .second 2000).psRequest).mpr
      ⟨two,fun _ => ⟨(scanRequest 1 12 .first 1000).psRequest,by decide,rfl⟩⟩
    have four := (attempts_concat _ (scanRequest 2 20 .first 3000).psRequest).mpr
      ⟨three,fun second => absurd second (by decide)⟩
    exact (attempts_concat _ (scanRequest 2 21 .second 4000).psRequest).mpr
      ⟨four,fun _ => ⟨(scanRequest 2 20 .first 3000).psRequest,by decide,rfl⟩⟩
  · intro served
    -- the first reply still goes to the endpoint of the abandoned attempt
    have sent : ∃ x ∈ psReplies (servePs (run servePs init retriedAttempt)
        (scanRequest 2 21 .second 4000)).2, x.dest = (⟨1,10⟩ : Endpoint).sockaddr := by
      decide
    obtain ⟨x,member,dest⟩ := sent
    obtain ⟨first,_,_,_,latest,same,_⟩ := served x member
    have source : first.source = ⟨1,10⟩ := Endpoint.sockaddr_injective (same.symm.trans dest)
    have newest : latestFirst (retriedAttempt.map (·.psRequest) ++
        [(scanRequest 2 21 .second 4000).psRequest]) 1 7 = some (scanRequest 1 12 .first 1000).psRequest := by
      decide
    rw [source] at latest
    have clash := congrArg (fun q => q.map (·.source.port)) (latest.symm.trans newest)
    simp [source] at clash
    exact absurd clash (by decide)

end P2pStun.UdpServer
