import P2pStun.PsFiling

/-! When a port-scanning match is answered. The completion test is made on the
branches of the second client only, so a match is left standing exactly when the
second request of the first client arrives last. -/
namespace P2pStun.UdpServer
open Runs

/-- One datagram obeys the completion law: afterwards no record holds both second
endpoints, and if the datagram supplied the last one both replies were sent and
the record is gone. -/
structure Completes (s : UdpServer) (d : RoutedRequest) : Prop where
  none_complete : ∀ k t, (handle s d.toReceived).1.psTransactionClientMap k = some t → ¬t.complete
  last_answered : ∀ t, live s.psTransactionClientMap d.psRequest = some t → ¬t.complete →
    (t.add d.psRequest).complete →
      (handle s d.toReceived).2 = ack d.psRequest :: replies (t.add d.psRequest) ∧
      (handle s d.toReceived).1.psTransactionClientMap d.transactionId = none

/-- A request from the first client's address meets a live record that already
holds the second client's second endpoint. -/
def Overtaken (s : UdpServer) (d : RoutedRequest) : Prop :=
  ∃ t, live s.psTransactionClientMap d.psRequest = some t ∧
    t.cl1Sk1.sinAddr = d.source.addr ∧ t.cl2Sk2.sinAddr ≠ 0

theorem completes_not_overtaken (s : UdpServer) (d : RoutedRequest) (law : Completes s d) :
    ¬Overtaken s d := by
  rintro ⟨t,alive,own,second⟩
  have slot : t.slot d.psRequest.source.addr = .cl1Port2 := (t.slot_cl1Port2 _).mpr own
  have stored : (handle s d.toReceived).1.psTransactionClientMap d.transactionId =
      some (t.add d.psRequest) := by
    have pending : ¬matched t d.psRequest := fun done => done.1 slot
    rw [(handle_psBindRequest s d.toFullDatagram).1,psHandle_kept alive pending]
    exact Function.update_self _ _ _
  apply law.none_complete _ _ stored
  rw [PsTransaction.add_cl1Port2 slot]
  exact ⟨second,d.routed⟩

theorem matched_of_complete (s : UdpServer) (d : RoutedRequest) (inTime : ¬Overtaken s d)
    {t : PsTransaction} (alive : live s.psTransactionClientMap d.psRequest = some t)
    (both : (t.add d.psRequest).complete) : matched t d.psRequest := by
  refine ⟨?_,both⟩
  intro own
  -- client one's branch leaves the second client's endpoints alone
  have second : (t.add d.psRequest).cl2Sk2 = t.cl2Sk2 := by
    rw [PsTransaction.add_cl1Port2 own]
  exact inTime ⟨t,alive,(t.slot_cl1Port2 _).mp own,second ▸ both.1⟩

theorem none_complete_step (s : UdpServer) (d : RoutedRequest)
    (before : ∀ k t, s.psTransactionClientMap k = some t → ¬t.complete) (inTime : ¬Overtaken s d) :
    Completes s d := by
  obtain ⟨map,sent⟩ := handle_psBindRequest s d.toFullDatagram
  constructor
  · rw [map]
    apply psHandle_records (fun k t _ => before k t)
    · intro _
      exact PsTransaction.create_not_complete _ _
    · intro t alive pending both
      exact pending (matched_of_complete s d inTime alive both)
  · intro t alive _ both
    rw [psHandle_matched alive (matched_of_complete s d inTime alive both)] at map sent
    refine ⟨sent,?_⟩
    rw [map]
    exact Function.update_self _ _ _

/-- Every datagram of a run obeys the completion law exactly when no second
request of a first client is overtaken by the one of the second client. -/
theorem completes_iff_not_overtaken (ds : List RoutedRequest) :
    Along (serve (fun d : RoutedRequest => d.toReceived)) Completes init ds ↔
      Along (serve (fun d : RoutedRequest => d.toReceived)) (fun s d => ¬Overtaken s d) init ds := by
  constructor
  · exact along_imp completes_not_overtaken
  · intro inTime
    have start : ∀ k t, init.psTransactionClientMap k = some t → ¬t.complete := by
      intro k t found
      contradiction
    exact along_of_invariant (fun s d before ok => (none_complete_step s d before ok).none_complete)
      none_complete_step start inTime

def requestFrom (addr : UInt32) (routed : addr ≠ 0) (port : UInt16) (socket : ServerSocket) (time : UInt64) :
    RoutedRequest :=
  ⟨scanRequest addr port socket time,routed⟩

def overtakenRun : List RoutedRequest :=
  [requestFrom 1 (by decide) 10 .first 0,requestFrom 2 (by decide) 20 .first 1,
    requestFrom 2 (by decide) 21 .second 2,requestFrom 1 (by decide) 11 .second 3]

theorem overtakenRun_not_completes :
    ¬Along (serve (fun d : RoutedRequest => d.toReceived)) Completes init overtakenRun := by
  intro all
  have last := (along_iff init overtakenRun).mp all (overtakenRun.take 3) (requestFrom 1 (by decide) 11 .second 3) [] rfl
  apply completes_not_overtaken _ _ last
  have holds : ((live (run (serve (fun d : RoutedRequest => d.toReceived)) init
      (overtakenRun.take 3)).psTransactionClientMap
      (requestFrom 1 (by decide) 11 .second 3).psRequest).any
        (fun t => t.cl1Sk1.sinAddr == 1 && t.cl2Sk2.sinAddr != 0)) = true := by
    decide
  obtain ⟨t,found,both⟩ := (Option.any_eq_true _ _).mp holds
  simp only [Bool.and_eq_true,beq_iff_eq,bne_iff_ne] at both
  exact ⟨t,found,both.1,both.2⟩

end P2pStun.UdpServer
