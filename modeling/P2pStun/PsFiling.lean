import P2pStun.Server

/-! What the port-scanning handler does with a request: which slot of which
record it is filed in, and when the record is answered and erased. Every later
result about records and replies starts from `psHandle_eq`. -/
namespace P2pStun
open ByteLayout Runs

namespace PsTransaction

def expired (t : PsTransaction) (now : UInt64) : Prop := t.cl1Ts1 + 30000 < now

instance (t : PsTransaction) (now : UInt64) : Decidable (t.expired now) :=
  inferInstanceAs (Decidable (t.cl1Ts1 + 30000 < now))

inductive Slot
  | cl1Port2 | cl2Port1 | cl2Port2 | third
deriving DecidableEq

/-- Second requests are meant for the second server socket. -/
def Slot.socket : Slot → Option ServerSocket
  | cl1Port2 | cl2Port2 => some .second
  | cl2Port1 => some .first
  | third => none

def slot (t : PsTransaction) (addr : UInt32) : Slot :=
  if t.cl1Sk1.sinAddr = addr then .cl1Port2
  else if t.cl2Sk1.sinAddr = 0 then .cl2Port1
  else if t.cl2Sk1.sinAddr = addr then .cl2Port2
  else .third

def add (t : PsTransaction) (req : PsRequest) : PsTransaction :=
  match t.slot req.source.addr with
  | .cl1Port2 => {t with cl1Ts2 := req.clock2, cl1Sk2 := req.source.sockaddr}
  | .cl2Port1 => {t with cl2Ts1 := req.clock2, cl2Sk1 := req.source.sockaddr}
  | .cl2Port2 => {t with cl2Ts2 := req.clock2, cl2Sk2 := req.source.sockaddr}
  | .third => t

def complete (t : PsTransaction) : Prop := t.cl2Sk2.sinAddr ≠ 0 ∧ t.cl1Sk2.sinAddr ≠ 0

instance (t : PsTransaction) : Decidable t.complete :=
  inferInstanceAs (Decidable (_ ∧ _))

def aboutFirst (t : PsTransaction) : PsBindReply := ⟨t.cl1Sk1,t.cl1Sk2,t.cl1Ts1,t.cl1Ts2⟩
def aboutSecond (t : PsTransaction) : PsBindReply := ⟨t.cl2Sk1,t.cl2Sk2,t.cl2Ts1,t.cl2Ts2⟩

theorem slot_cl1Port2 (t : PsTransaction) (addr : UInt32) :
    t.slot addr = .cl1Port2 ↔ t.cl1Sk1.sinAddr = addr := by
  unfold slot
  split_ifs <;> simp_all

theorem slot_cl2Port1 (t : PsTransaction) (addr : UInt32) :
    t.slot addr = .cl2Port1 ↔ t.cl1Sk1.sinAddr ≠ addr ∧ t.cl2Sk1.sinAddr = 0 := by
  unfold slot
  split_ifs <;> simp_all

theorem slot_cl2Port2 (t : PsTransaction) (addr : UInt32) :
    t.slot addr = .cl2Port2 ↔
      t.cl1Sk1.sinAddr ≠ addr ∧ t.cl2Sk1.sinAddr ≠ 0 ∧ t.cl2Sk1.sinAddr = addr := by
  unfold slot
  split_ifs <;> simp_all

theorem slot_third (t : PsTransaction) (addr : UInt32) :
    t.slot addr = .third ↔
      t.cl1Sk1.sinAddr ≠ addr ∧ t.cl2Sk1.sinAddr ≠ 0 ∧ t.cl2Sk1.sinAddr ≠ addr := by
  unfold slot
  split_ifs <;> simp_all

section Add
variable {t : PsTransaction} {req : PsRequest}

theorem add_cl1Port2 (slot : t.slot req.source.addr = .cl1Port2) :
    t.add req = {t with cl1Ts2 := req.clock2, cl1Sk2 := req.source.sockaddr} := by
  simp only [add,slot]

theorem add_cl2Port1 (slot : t.slot req.source.addr = .cl2Port1) :
    t.add req = {t with cl2Ts1 := req.clock2, cl2Sk1 := req.source.sockaddr} := by
  simp only [add,slot]

theorem add_cl2Port2 (slot : t.slot req.source.addr = .cl2Port2) :
    t.add req = {t with cl2Ts2 := req.clock2, cl2Sk2 := req.source.sockaddr} := by
  simp only [add,slot]

theorem add_third (slot : t.slot req.source.addr = .third) : t.add req = t := by
  simp only [add,slot]

end Add

theorem add_cl1Sk1 (t : PsTransaction) (req : PsRequest) : (t.add req).cl1Sk1 = t.cl1Sk1 := by
  unfold add
  split <;> rfl

theorem create_not_complete (addr : SockaddrIn) (time : UInt64) : ¬(create addr time).complete := by
  intro both
  exact both.1 rfl

end PsTransaction

namespace UdpServer

def live (map : PsMap) (req : PsRequest) : Option PsTransaction :=
  (map req.transactionId).filter (fun t => ¬t.expired req.clock1)

/-- The clock reading stored with a first endpoint: a fresh record takes the first
reading, a reset one the reading after the expiry check. -/
def openTime (map : PsMap) (req : PsRequest) : UInt64 :=
  if (map req.transactionId).isNone then req.clock1 else req.clock2

def ack (req : PsRequest) : Sent := ⟨req.socket,req.source.sockaddr,ackMessage⟩

def replyMessage (r : PsBindReply) : Message := (ackMessage.setType .psBindReply).setPsBindReply r

@[simp] theorem replyMessage_type (r : PsBindReply) :
    (replyMessage r).type = some .psBindReply := by
  simp [replyMessage]

@[simp] theorem replyMessage_psBindReply (r : PsBindReply) : (replyMessage r).psBindReply = r := by
  simp [replyMessage]

def replies (t : PsTransaction) : List Sent :=
  [⟨.first,t.cl1Sk1,replyMessage t.aboutSecond⟩,⟨.first,t.cl2Sk1,replyMessage t.aboutFirst⟩]

/-- The two replies and the erasure happen when a request leaves a complete
record, except on the branch of client one, which returns before the test. -/
def matched (t : PsTransaction) (req : PsRequest) : Prop :=
  t.slot req.source.addr ≠ .cl1Port2 ∧ (t.add req).complete

instance (t : PsTransaction) (req : PsRequest) : Decidable (matched t req) :=
  inferInstanceAs (Decidable (_ ∧ _))

def filedSocket (map : PsMap) (req : PsRequest) : Option ServerSocket :=
  match live map req with
  | none => some .first
  | some t => (t.slot req.source.addr).socket

theorem live_eq_some (map : PsMap) (req : PsRequest) (t : PsTransaction) :
    live map req = some t ↔ map req.transactionId = some t ∧ ¬t.expired req.clock1 := by
  unfold live
  cases map req.transactionId with
  | none => simp
  | some u =>
    simp only [Option.filter,decide_not]
    constructor
    · intro found
      split at found
      · rename_i fresh
        cases found
        exact ⟨rfl,by simpa using fresh⟩
      · contradiction
    · rintro ⟨same,fresh⟩
      cases same
      simp [fresh]

theorem live_stored {map : PsMap} {req : PsRequest} {t : PsTransaction}
    (alive : live map req = some t) : map req.transactionId = some t :=
  ((live_eq_some map req t).mp alive).1

theorem openTime_once (map : PsMap) (req : PsRequest) (once : req.clock1 = req.clock2) :
    openTime map req = req.clock1 := by
  rw [openTime,once,ite_self]

theorem psHandle_eq (map : PsMap) (req : PsRequest) :
    psHandle map req = match live map req with
      | none => (Function.update map req.transactionId
          (some (.create req.source.sockaddr (openTime map req))),[ack req])
      | some t =>
        if matched t req then
          (Function.update map req.transactionId none,ack req :: replies (t.add req))
        else (Function.update map req.transactionId (some (t.add req)),[ack req]) := by
  cases found : map req.transactionId with
  | none => simp [psHandle,psBindRequest,live,openTime,ack,found]
  | some t =>
    by_cases old : t.expired req.clock1
    · have reset : t.cl1Ts1 + 30000 < req.clock1 := old
      simp [psHandle,psBindRequest,live,openTime,ack,found,old,reset,Option.filter]
    · have kept : ¬t.cl1Ts1 + 30000 < req.clock1 := old
      have alive : live map req = some t := (live_eq_some map req t).mpr ⟨found,old⟩
      rw [alive]
      by_cases own : t.cl1Sk1.sinAddr = req.source.addr
      · have slot := (t.slot_cl1Port2 req.source.addr).mpr own
        simp [psHandle,psBindRequest,found,kept,own,matched,PsTransaction.add,slot,ack]
      · have notOwn : t.slot req.source.addr ≠ .cl1Port2 := by
          rwa [Ne,PsTransaction.slot_cl1Port2]
        have tail : psHandle map req =
            ((psComplete map req (t.add req)).1,(psComplete map req (t.add req)).2.2) := by
          simp only [psHandle,psBindRequest,found,kept,own,if_false,Endpoint.sockaddr_sinAddr]
          by_cases empty : t.cl2Sk1.sinAddr = 0
          · have slot := (t.slot_cl2Port1 req.source.addr).mpr ⟨own,empty⟩
            simp only [PsTransaction.add,slot,empty,if_true]
          · rw [if_neg empty]
            by_cases peer : t.cl2Sk1.sinAddr = req.source.addr
            · have slot := (t.slot_cl2Port2 req.source.addr).mpr ⟨own,empty,peer⟩
              simp only [PsTransaction.add,slot,peer,if_true]
            · have slot := (t.slot_third req.source.addr).mpr ⟨own,empty,peer⟩
              simp only [PsTransaction.add,slot,peer,if_false]
        rw [tail]
        simp only [psComplete,matched,notOwn,ne_eq,not_false_eq_true,true_and,ack]
        by_cases both : (t.add req).complete
        · have both' : ¬(t.add req).cl2Sk2.sinAddr = 0 ∧ ¬(t.add req).cl1Sk2.sinAddr = 0 := both
          simp only [both,both',if_true,replies,replyMessage,PsTransaction.aboutFirst,
            PsTransaction.aboutSecond,Message.setPsBindReply,splice_splice,not_false_eq_true,and_self]
        · have both' : ¬(¬(t.add req).cl2Sk2.sinAddr = 0 ∧ ¬(t.add req).cl1Sk2.sinAddr = 0) := both
          simp only [both,both',if_false]

theorem stored_update {P : UInt32 → PsTransaction → Prop} {map : PsMap} (id : UInt32)
    (entry : Option PsTransaction) (others : ∀ k t, k ≠ id → map k = some t → P k t)
    (new : ∀ t, entry = some t → P id t) :
    ∀ k t, Function.update map id entry k = some t → P k t := by
  intro k t
  rw [Function.update_apply]
  split_ifs with same
  · rw [same]
    exact new t
  · exact others k t same

variable {map : PsMap} {req : PsRequest} {t : PsTransaction}

theorem psHandle_opened (dead : live map req = none) :
    psHandle map req = (Function.update map req.transactionId
      (some (.create req.source.sockaddr (openTime map req))),[ack req]) := by
  rw [psHandle_eq,dead]

theorem psHandle_matched (alive : live map req = some t) (done : matched t req) :
    psHandle map req =
      (Function.update map req.transactionId none,ack req :: replies (t.add req)) := by
  rw [psHandle_eq,alive]
  simp only [done,if_true]

theorem psHandle_kept (alive : live map req = some t) (pending : ¬matched t req) :
    psHandle map req = (Function.update map req.transactionId (some (t.add req)),[ack req]) := by
  rw [psHandle_eq,alive]
  simp only [pending,if_false]

def isPsBindReply (x : Sent) : Bool := x.message.type == some .psBindReply

def psReplies (sent : List Sent) : List Sent := sent.filter isPsBindReply

theorem ack_not_reply (req : PsRequest) : isPsBindReply (ack req) = false := by
  simp [isPsBindReply,ack,ackMessage]

theorem psReplies_ack (req : PsRequest) : psReplies [ack req] = [] := by
  simp [psReplies,ack_not_reply]

theorem psReplies_matched (req : PsRequest) (t : PsTransaction) :
    psReplies (ack req :: replies t) = replies t := by
  rw [psReplies,List.filter_cons,ack_not_reply]
  simp [replies,isPsBindReply]

theorem psHandle_other {k : UInt32} (apart : k ≠ req.transactionId) :
    (psHandle map req).1 k = map k := by
  cases alive : live map req with
  | none =>
    rw [psHandle_opened alive]
    exact Function.update_of_ne apart _ _
  | some t =>
    by_cases done : matched t req
    · rw [psHandle_matched alive done]
      exact Function.update_of_ne apart _ _
    · rw [psHandle_kept alive done]
      exact Function.update_of_ne apart _ _

theorem psHandle_own {m n : PsMap} (same : m req.transactionId = n req.transactionId) :
    (psHandle m req).1 req.transactionId = (psHandle n req).1 req.transactionId ∧
      (psHandle m req).2 = (psHandle n req).2 := by
  have together : live m req = live n req := by
    rw [live,live,same]
  have time : openTime m req = openTime n req := by
    rw [openTime,openTime,same]
  cases alive : live n req with
  | none =>
    rw [psHandle_opened alive,psHandle_opened (together.trans alive),time]
    simp
  | some t =>
    by_cases done : matched t req
    · rw [psHandle_matched alive done,psHandle_matched (together.trans alive) done]
      simp
    · rw [psHandle_kept alive done,psHandle_kept (together.trans alive) done]
      simp

theorem psHandle_records {P : UInt32 → PsTransaction → Prop}
    (others : ∀ k t, k ≠ req.transactionId → map k = some t → P k t)
    (opened : live map req = none →
      P req.transactionId (.create req.source.sockaddr (openTime map req)))
    (filed : ∀ t, live map req = some t → ¬matched t req → P req.transactionId (t.add req)) :
    ∀ k t, (psHandle map req).1 k = some t → P k t := by
  cases alive : live map req with
  | none =>
    rw [psHandle_opened alive]
    apply stored_update _ _ others
    intro t created
    cases created
    exact opened alive
  | some t =>
    by_cases done : matched t req
    · rw [psHandle_matched alive done]
      exact stored_update _ _ others nofun
    · rw [psHandle_kept alive done]
      apply stored_update _ _ others
      intro u kept
      cases kept
      exact filed t alive done

theorem psHandle_silent_or_matched (map : PsMap) (req : PsRequest) :
    psReplies (psHandle map req).2 = [] ∨ ∃ t, live map req = some t ∧ matched t req ∧
      (psHandle map req).2 = ack req :: replies (t.add req) := by
  cases alive : live map req with
  | none =>
    rw [psHandle_opened alive]
    exact Or.inl (psReplies_ack req)
  | some t =>
    by_cases done : matched t req
    · refine Or.inr ⟨t,rfl,done,?_⟩
      rw [psHandle_matched alive done]
    · rw [psHandle_kept alive done]
      exact Or.inl (psReplies_ack req)

theorem psHandle_psReplies {P : Sent → Prop}
    (answered : ∀ t, live map req = some t → matched t req → ∀ x ∈ replies (t.add req), P x) :
    ∀ x ∈ psReplies (psHandle map req).2, P x := by
  rcases psHandle_silent_or_matched map req with silent | ⟨t,alive,done,sent⟩
  · rw [silent]
    exact nofun
  · rw [sent,psReplies_matched]
    exact answered t alive done

/-- Whatever arrives, either the port-scanning half takes a step or the records stay
and no port-scanning reply is sent. -/
theorem handle_psCases (s : UdpServer) (d : Received) :
    ((handle s d).1.psTransactionClientMap =
        (psHandle s.psTransactionClientMap (s.psRequest d)).1 ∧
      (handle s d).2 = (psHandle s.psTransactionClientMap (s.psRequest d)).2) ∨
    ((handle s d).1.psTransactionClientMap = s.psTransactionClientMap ∧
      psReplies (handle s d).2 = []) := by
  unfold handle
  split
  · exact Or.inl ⟨rfl,rfl⟩
  · refine Or.inr ⟨rfl,?_⟩
    simp only [bindRequest]
    split <;> simp [psReplies,isPsBindReply,ackMessage]
  · refine Or.inr ⟨rfl,?_⟩
    simp [psReplies,isPsBindReply,ackMessage]
  · exact Or.inr ⟨rfl,rfl⟩

abbrev servePs : Machine UdpServer (FullDatagram .psBindRequest) Sent := serve (fun d => d.toReceived)

theorem servePs_map (s : UdpServer) (d : FullDatagram .psBindRequest) :
    (servePs s d).1.psTransactionClientMap = (psHandle s.psTransactionClientMap d.psRequest).1 :=
  (handle_psBindRequest s d).1

theorem servePs_sent (s : UdpServer) (d : FullDatagram .psBindRequest) :
    (servePs s d).2 = (psHandle s.psTransactionClientMap d.psRequest).2 :=
  (handle_psBindRequest s d).2

theorem servePs_run (ds : List (FullDatagram .psBindRequest)) :
    (run servePs init ds).psTransactionClientMap =
      run psHandle (fun _ => none) (ds.map (·.psRequest)) :=
  run_view (fun s : UdpServer => s.psTransactionClientMap) _ servePs_map init ds

end UdpServer

end P2pStun
