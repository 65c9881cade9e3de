import P2pStun.PsCompletion

/-! Requests from a third IP address for a transaction that two clients hold. They
match no slot of the record but still reach the completion test. -/
namespace P2pStun.UdpServer
open Runs

/-- A port-scanning request meets a live record of two clients and comes from neither. -/
structure ThirdParty (s : UdpServer) (d : Received) (t : PsTransaction) : Prop where
  typed : (s.buffer d).type = some .psBindRequest
  alive : live s.psTransactionClientMap (s.psRequest d) = some t
  taken : t.cl1Sk1.sinAddr ≠ 0 ∧ t.cl2Sk1.sinAddr ≠ 0
  foreign : t.cl1Sk1.sinAddr ≠ d.source.addr ∧ t.cl2Sk1.sinAddr ≠ d.source.addr

structure Undisturbed (s : UdpServer) (d : Received) : Prop where
  records : (handle s d).1.psTransactionClientMap = s.psTransactionClientMap
  plain : (handle s d).1.transactionClientMap = s.transactionClientMap
  sent : (handle s d).2 = [ack (s.psRequest d)]

theorem ThirdParty.slot {s : UdpServer} {d : Received} {t : PsTransaction} (third : ThirdParty s d t) :
    t.slot (s.psRequest d).source.addr = .third :=
  (t.slot_third _).mpr ⟨third.foreign.1,third.taken.2,third.foreign.2⟩

theorem ThirdParty.matched_iff {s : UdpServer} {d : Received} {t : PsTransaction}
    (third : ThirdParty s d t) : matched t (s.psRequest d) ↔ t.complete := by
  rw [matched,PsTransaction.add_third third.slot,third.slot]
  simp

theorem undisturbed_iff {s : UdpServer} {d : Received} {t : PsTransaction}
    (third : ThirdParty s d t) : Undisturbed s d ↔ ¬t.complete := by
  obtain ⟨map,plain,sent⟩ := handle_scan third.typed
  have stored := live_stored third.alive
  constructor
  · intro quiet both
    have erased := quiet.records
    rw [map,psHandle_matched third.alive (third.matched_iff.mpr both)] at erased
    have gone := congrFun erased (s.psRequest d).transactionId
    simp [stored] at gone
  · intro incomplete
    have pending : ¬matched t (s.psRequest d) := fun done => incomplete (third.matched_iff.mp done)
    rw [psHandle_kept third.alive pending] at map sent
    refine ⟨?_,plain,sent⟩
    rw [map,PsTransaction.add_third third.slot,← stored,Function.update_eq_self]

/-- Third parties leave taken transactions alone in a run exactly when they meet none
that already holds both second endpoints. -/
theorem thirdParty_undisturbed_iff (ds : List Received) :
    Along handle (fun s d => ∀ t, ThirdParty s d t → Undisturbed s d) init ds ↔
      Along handle (fun s d => ∀ t, ThirdParty s d t → ¬t.complete) init ds := by
  apply along_congr (fun _ => True)
  · exact fun _ _ _ _ => trivial
  · intro s d _
    constructor
    · exact fun quiet t third => (undisturbed_iff third).mp (quiet t third)
    · exact fun pending t third => (undisturbed_iff third).mpr (pending t third)
  · trivial

theorem undisturbed_of_inTime (ds : List RoutedRequest)
    (inTime : Along (serve (fun d : RoutedRequest => d.toReceived)) (fun s d => ¬Overtaken s d) init ds) :
    Along (serve (fun d : RoutedRequest => d.toReceived))
      (fun s d => ∀ t, ThirdParty s d.toReceived t → Undisturbed s d.toReceived) init ds := by
  have start : ∀ k t, init.psTransactionClientMap k = some t → ¬t.complete := by
    intro k t found
    contradiction
  apply along_of_invariant (fun s d before ok => (none_complete_step s d before ok).none_complete) ?_ start inTime
  intro s d before _ t third
  exact (undisturbed_iff third).mpr (before _ t (live_stored third.alive))

/-- Both second endpoints are stored, the first client's last, when a third party sends. -/
theorem thirdParty_disturbs :
    ¬Along handle (fun s d => ∀ t, ThirdParty s d t → Undisturbed s d) init
      ((overtakenRun ++ [requestFrom 3 (by decide) 30 .first 4]).map (·.toReceived)) := by
  intro all
  let before := overtakenRun.map (·.toReceived)
  let d : Received := (requestFrom 3 (by decide) 30 .first 4).toReceived
  have last := (along_iff init _).mp all before d [] (by simp [before,d])
  have holds : ((live (run handle init before).psTransactionClientMap
      ((run handle init before).psRequest d)).any (fun t => t.cl1Sk1.sinAddr == 1 &&
        t.cl2Sk1.sinAddr == 2 && t.cl2Sk2.sinAddr == 2 && t.cl1Sk2.sinAddr == 1)) = true := by
    decide
  obtain ⟨t,found,facts⟩ := (Option.any_eq_true _ _).mp holds
  simp only [Bool.and_eq_true,beq_iff_eq] at facts
  obtain ⟨⟨⟨one,two⟩,second⟩,first⟩ := facts
  have third : ThirdParty (run handle init before) d t :=
    ⟨by decide,found,by rw [one,two]; decide,by rw [one,two]; decide⟩
  refine (undisturbed_iff third).mp (last t third) ⟨?_,?_⟩
  · rw [second]
    decide
  · rw [first]
    decide

end P2pStun.UdpServer
