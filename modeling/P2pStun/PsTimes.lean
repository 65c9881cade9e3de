import P2pStun.P2pPsConnector
import P2pStun.PsFiling

/-! The times in the replies. On a clock that never runs backwards every reply
carries two readings in order and at most the lifetime of a record apart, so the
divisor the predicting client derives from them is a small positive number. -/
namespace P2pStun.UdpServer
open Runs

structure TimesInOrder (t : PsTransaction) : Prop where
  first : t.cl1Sk2.sinAddr ≠ 0 →
    t.cl1Ts1.toNat ≤ t.cl1Ts2.toNat ∧ t.cl1Ts2.toNat ≤ t.cl1Ts1.toNat + 30000
  second : t.cl2Sk1.sinAddr ≠ 0 → t.cl1Ts1.toNat ≤ t.cl2Ts1.toNat
  both : t.cl2Sk2.sinAddr ≠ 0 → t.cl2Sk1.sinAddr ≠ 0 ∧
    t.cl2Ts1.toNat ≤ t.cl2Ts2.toNat ∧ t.cl2Ts2.toNat ≤ t.cl1Ts1.toNat + 30000

structure TimesUpTo (now : UInt64) (t : PsTransaction) : Prop extends TimesInOrder t where
  firstPast : t.cl1Ts1 ≤ now
  secondPast : t.cl2Sk1.sinAddr ≠ 0 → t.cl2Ts1 ≤ now

theorem TimesUpTo.later {now then' : UInt64} {t : PsTransaction} (times : TimesUpTo now t)
    (order : now ≤ then') : TimesUpTo then' t where
  toTimesInOrder := times.toTimesInOrder
  firstPast := UInt64.le_trans times.firstPast order
  secondPast set := UInt64.le_trans (times.secondPast set) order

/-- A record that is not expired is at most 30000 ms old, also where the sum in the
expiry check wraps. -/
theorem age_of_not_expired (t : PsTransaction) (now : UInt64) (fresh : ¬t.expired now) :
    now.toNat ≤ t.cl1Ts1.toNat + 30000 := by
  rw [PsTransaction.expired,UInt64.lt_iff_toNat_lt,UInt64.toNat_add] at fresh
  have small : (30000 : UInt64).toNat = 30000 := rfl
  have bound := now.toNat_lt
  rw [small] at fresh
  omega

theorem times_create (addr : SockaddrIn) (now : UInt64) :
    TimesUpTo now (.create addr now) where
  first set := absurd rfl set
  second set := absurd rfl set
  both set := absurd rfl set
  firstPast := UInt64.le_refl _
  secondPast set := absurd rfl set

theorem times_add (t : PsTransaction) (req : PsRequest) (once : req.clock1 = req.clock2)
    (times : TimesUpTo req.clock1 t) (fresh : ¬t.expired req.clock1) :
    TimesUpTo req.clock1 (t.add req) := by
  have age := age_of_not_expired t req.clock1 fresh
  have past := UInt64.le_iff_toNat_le.mp times.firstPast
  cases slot : t.slot req.source.addr with
  | cl1Port2 =>
    rw [PsTransaction.add_cl1Port2 slot]
    exact ⟨⟨fun _ => ⟨once ▸ past,once ▸ age⟩,times.second,times.both⟩,times.firstPast,times.secondPast⟩
  | cl2Port1 =>
    have empty := ((t.slot_cl2Port1 _).mp slot).2
    rw [PsTransaction.add_cl2Port1 slot]
    refine ⟨⟨times.first,fun _ => once ▸ past,?_⟩,times.firstPast,fun _ => once ▸ UInt64.le_refl _⟩
    intro set
    exact absurd empty (times.both set).1
  | cl2Port2 =>
    have set := ((t.slot_cl2Port2 _).mp slot).2.1
    have started := UInt64.le_iff_toNat_le.mp (times.secondPast set)
    rw [PsTransaction.add_cl2Port2 slot]
    exact ⟨⟨times.first,times.second,fun _ => ⟨set,once ▸ started,once ▸ age⟩⟩,
      times.firstPast,times.secondPast⟩
  | third =>
    rw [PsTransaction.add_third slot]
    exact times

structure Usable (r : PsBindReply) : Prop where
  ordered : r.t1 ≤ r.t2
  bounded : r.t2 - r.t1 ≤ 30000
  exact : (timediffPortAllocation r.t1 r.t2).toNat = r.t2.toNat - r.t1.toNat + 1
  positive : 1 ≤ timediffPortAllocation r.t1 r.t2
  small : timediffPortAllocation r.t1 r.t2 ≤ 30001

theorem usable_of_close (r : PsBindReply) (order : r.t1.toNat ≤ r.t2.toNat)
    (close : r.t2.toNat ≤ r.t1.toNat + 30000) : Usable r := by
  have ordered : r.t1 ≤ r.t2 := UInt64.le_iff_toNat_le.mpr order
  have difference := UInt64.toNat_sub_of_le r.t2 r.t1 ordered
  have exact : (timediffPortAllocation r.t1 r.t2).toNat = r.t2.toNat - r.t1.toNat + 1 := by
    rw [timediffPortAllocation,UInt64.toNat_add,difference]
    have one : (1 : UInt64).toNat = 1 := rfl
    omega
  refine ⟨ordered,?_,exact,?_,?_⟩
  · rw [UInt64.le_iff_toNat_le,difference,show (30000 : UInt64).toNat = 30000 from rfl]
    omega
  · rw [UInt64.le_iff_toNat_le,exact,show (1 : UInt64).toNat = 1 from rfl]
    omega
  · rw [UInt64.le_iff_toNat_le,exact,show (30001 : UInt64).toNat = 30001 from rfl]
    omega

theorem replies_usable (t : PsTransaction) (times : TimesInOrder t) (done : t.complete) :
    ∀ x ∈ replies t, Usable x.message.psBindReply := by
  obtain ⟨_,order2,close2⟩ := times.both done.1
  obtain ⟨order1,close1⟩ := times.first done.2
  have start := times.second (times.both done.1).1
  intro x member
  rcases List.mem_cons.mp member with rfl | member
  · rw [replyMessage_psBindReply]
    exact usable_of_close _ order2 (by simp only [PsTransaction.aboutSecond]; omega)
  · rw [List.mem_singleton.mp member,replyMessage_psBindReply]
    exact usable_of_close _ order1 close1

theorem times_step (s : UdpServer) (d : Received) (once : d.clock1 = d.clock2)
    (before : ∀ k t, s.psTransactionClientMap k = some t → TimesUpTo d.clock1 t) :
    (∀ k t, (handle s d).1.psTransactionClientMap k = some t → TimesUpTo d.clock1 t) ∧
      ∀ x ∈ psReplies (handle s d).2, Usable x.message.psBindReply := by
  rcases handle_psCases s d with ⟨map,sent⟩ | ⟨map,sent⟩
  · rw [map,sent]
    have added (t : PsTransaction) (alive : live s.psTransactionClientMap (s.psRequest d) = some t) :
        TimesUpTo d.clock1 (t.add (s.psRequest d)) := by
      obtain ⟨stored,fresh⟩ := (live_eq_some _ _ _).mp alive
      exact times_add t (s.psRequest d) once (before _ t stored) fresh
    constructor
    · apply psHandle_records (fun k t _ => before k t)
      · intro _
        rw [openTime_once _ (s.psRequest d) once]
        exact times_create _ _
      · intro t alive _
        exact added t alive
    · apply psHandle_psReplies
      intro t alive done
      exact replies_usable _ (added t alive).toTimesInOrder done.2
  · rw [map,sent]
    exact ⟨before,by simp⟩

/-- Along every run on a non-decreasing clock with one reading for each datagram,
each port-scanning reply carries usable times. -/
theorem replies_usable_along (ds : List Received) (once : ∀ d ∈ ds, d.clock1 = d.clock2)
    (clock : ds.Pairwise (fun a b => a.clock1 ≤ b.clock1)) :
    ∀ past d rest, ds = past ++ d :: rest →
      ∀ x ∈ psReplies (handle (run handle init past) d).2, Usable x.message.psBindReply := by
  have records (past : List Received) : (∀ d ∈ past, d.clock1 = d.clock2) →
      past.Pairwise (fun a b => a.clock1 ≤ b.clock1) → ∀ now, (∀ d ∈ past, d.clock1 ≤ now) →
        ∀ k t, (run handle init past).psTransactionClientMap k = some t → TimesUpTo now t := by
    refine history_invariant (fun past (s : UdpServer) => (∀ d ∈ past, d.clock1 = d.clock2) →
      past.Pairwise (fun a b => a.clock1 ≤ b.clock1) → ∀ now, (∀ d ∈ past, d.clock1 ≤ now) →
        ∀ k t, s.psTransactionClientMap k = some t → TimesUpTo now t) ?_ ?_ past
    · intro _ _ now _ k t found
      contradiction
    · intro past d before once clock now limit k t found
      obtain ⟨earlier,_,until'⟩ := List.pairwise_append.mp clock
      have older := before (fun e member => once e (by simp [member])) earlier d.clock1
        (fun e member => until' e member d (by simp))
      exact ((times_step _ d (once d (by simp)) older).1 k t found).later (limit d (by simp))
  rintro past d rest rfl
  obtain ⟨earlier,_,until'⟩ := List.pairwise_append.mp clock
  have older := records past (fun e member => once e (by simp [member])) earlier d.clock1
    (fun e member => until' e member d (by simp))
  exact (times_step _ d (once d (by simp)) older).2

def resetThenMatched : List Received :=
  [(scanRequest 1 9 .first 0).toReceived,(scanRequest 1 10 .first 40000).toReceived,
    (scanRequest 1 11 .second 41000).toReceived,(scanRequest 2 20 .first 69000).toReceived]

theorem replies_usable_resetThenMatched :
    (psReplies (handle (run handle init resetThenMatched) (scanRequest 2 21 .second 70000).toReceived).2).length = 2 ∧
      ∀ x ∈ psReplies (handle (run handle init resetThenMatched) (scanRequest 2 21 .second 70000).toReceived).2,
        Usable x.message.psBindReply :=
  ⟨by decide,replies_usable_along (resetThenMatched ++ [(scanRequest 2 21 .second 70000).toReceived]) (by decide)
    (by decide) resetThenMatched _ [] rfl⟩

end P2pStun.UdpServer
