import P2pStun.PsFiling

/-! Transactions of the port-scanning rendezvous do not touch each other: a run over
datagrams of all kinds treats one id as the run over the requests for it does. -/
namespace P2pStun
open Runs

structure WholeDatagram extends Received where
  full : 56 ≤ payload.length

namespace WholeDatagram

def isRequestFor (k : UInt32) (d : WholeDatagram) : Bool :=
  d.payload.type == some .psBindRequest && d.payload.transactionId == some k

theorem isRequestFor_iff (k : UInt32) (d : WholeDatagram) :
    d.isRequestFor k = true ↔
      d.payload.type = some .psBindRequest ∧ d.payload.transactionId = some k := by
  simp [isRequestFor]

theorem buffer_type (d : WholeDatagram) (s : UdpServer) :
    (s.buffer d.toReceived).type = d.payload.type := by
  have nonempty : d.payload ≠ [] := by
    intro empty
    have long := d.full
    simp [empty] at long
  rw [UdpServer.buffer,Message.type_received _ _ nonempty]

theorem psRequest_transactionId (d : WholeDatagram) (s : UdpServer) :
    d.payload.transactionId = some (s.psRequest d.toReceived).transactionId := by
  have long : 12 ≤ d.payload.length := Nat.le_trans (by decide) d.full
  have own : d.payload.transactionId = some (ntohl (Message.zero.received d.payload).transactionId) := by
    simp [Payload.transactionId,Message.received,long]
  rw [own,UdpServer.psRequest]
  exact congrArg some (Message.transactionId_received _ _ _ own).symm

end WholeDatagram

namespace UdpServer

abbrev serveWhole : Machine UdpServer WholeDatagram Sent := serve (fun d => d.toReceived)

def SameRecord (k : UInt32) (s t : UdpServer) : Prop :=
  s.psTransactionClientMap k = t.psTransactionClientMap k

theorem sameRecord_request (k : UInt32) (s t : UdpServer) (d : WholeDatagram)
    (is : d.isRequestFor k = true) (same : SameRecord k s t) :
    SameRecord k (serveWhole s d).1 (serveWhole t d).1 ∧ (serveWhole s d).2 = (serveWhole t d).2 := by
  obtain ⟨typed,named⟩ := (d.isRequestFor_iff k).mp is
  obtain ⟨mapS,_,sentS⟩ := handle_scan ((d.buffer_type s).trans typed)
  obtain ⟨mapT,_,sentT⟩ := handle_scan ((d.buffer_type t).trans typed)
  have idS : k = (s.psRequest d.toReceived).transactionId :=
    Option.some.inj (named.symm.trans (d.psRequest_transactionId s))
  have idT : k = (t.psRequest d.toReceived).transactionId :=
    Option.some.inj (named.symm.trans (d.psRequest_transactionId t))
  have together : s.psRequest d.toReceived = t.psRequest d.toReceived := by
    have ids := idS.symm.trans idT
    simp only [psRequest] at ids ⊢
    rw [ids]
  simp only [SameRecord,serve]
  rw [mapS,mapT,sentS,sentT,together]
  rw [idT] at same ⊢
  exact psHandle_own same

theorem sameRecord_other (k : UInt32) (s t : UdpServer) (d : WholeDatagram)
    (isNot : d.isRequestFor k = false) (same : SameRecord k s t) :
    SameRecord k (serveWhole s d).1 t := by
  have kept : (handle s d.toReceived).1.psTransactionClientMap k = s.psTransactionClientMap k := by
    by_cases typed : d.payload.type = some .psBindRequest
    · have apart : k ≠ (s.psRequest d.toReceived).transactionId := by
        intro own
        have named := d.psRequest_transactionId s
        rw [← own] at named
        rw [(d.isRequestFor_iff k).mpr ⟨typed,named⟩] at isNot
        contradiction
      rw [(handle_scan ((d.buffer_type s).trans typed)).1]
      exact psHandle_other apart
    · rw [handle_notScan (by rwa [d.buffer_type s])]
  exact kept.trans same

/-- For every id, a run ends with the record, and sends in answer to the requests for
the id the port-scanning replies, of the run over these requests alone. -/
theorem transactions_isolated (ds : List WholeDatagram) (k : UInt32) :
    (run serveWhole init ds).psTransactionClientMap k =
        (run serveWhole init (ds.filter (WholeDatagram.isRequestFor k))).psTransactionClientMap k ∧
      psReplies (outputsOf serveWhole (WholeDatagram.isRequestFor k) init ds) =
        psReplies (outputs serveWhole init (ds.filter (WholeDatagram.isRequestFor k))) := by
  obtain ⟨same,sent⟩ := run_restricted (R := SameRecord k) (WholeDatagram.isRequestFor k)
    (sameRecord_request k) (sameRecord_other k) rfl ds
  exact ⟨same,congrArg psReplies sent⟩

end UdpServer

end P2pStun
