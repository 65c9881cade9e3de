import P2pStun.Counters
import P2pStun.PlainRendezvous
import P2pStun.PsFiling

/-! How much the server sends. A datagram may be answered by three, but what a match sends
was saved up by the requests that are stored. -/
namespace P2pStun
open Runs Totals

noncomputable instance fintypeUInt32 : Fintype UInt32 :=
  Fintype.ofInjective (fun x => x.toBitVec.toFin) fun _ _ same => UInt32.toBitVec_inj.mp (BitVec.toFin_inj.mp same)

def weighed {A : Type} (weight : A → Nat) (entry : Option A) : Nat := entry.elim 0 weight

@[simp] theorem weighed_none {A : Type} (weight : A → Nat) : weighed weight none = 0 := rfl

@[simp] theorem weighed_some {A : Type} (weight : A → Nat) (a : A) : weighed weight (some a) = weight a := rfl

namespace PsTransaction

def present (a : SockaddrIn) : Nat := if a.sinAddr = 0 then 0 else 1

theorem present_le (a : SockaddrIn) : present a ≤ 1 := by
  unfold present
  split <;> decide

def filled (t : PsTransaction) : Nat := 1 + present t.cl1Sk2 + present t.cl2Sk1 + present t.cl2Sk2

def Ordered (t : PsTransaction) : Prop := t.cl2Sk2.sinAddr ≠ 0 → t.cl2Sk1.sinAddr ≠ 0

theorem filled_create (addr : SockaddrIn) (time : UInt64) : (create addr time).filled = 1 := rfl

theorem filled_add (t : PsTransaction) (req : PsRequest) : (t.add req).filled ≤ t.filled + 1 := by
  have bound := present_le req.source.sockaddr
  cases slot : t.slot req.source.addr with
  | cl1Port2 =>
    rw [add_cl1Port2 slot]
    simp only [filled]
    omega
  | cl2Port1 =>
    rw [add_cl2Port1 slot]
    simp only [filled]
    omega
  | cl2Port2 =>
    rw [add_cl2Port2 slot]
    simp only [filled]
    omega
  | third =>
    rw [add_third slot]
    omega

theorem ordered_add {t : PsTransaction} (ordered : t.Ordered) (req : PsRequest) : (t.add req).Ordered := by
  cases slot : t.slot req.source.addr with
  | cl1Port2 => rwa [add_cl1Port2 slot]
  | cl2Port1 =>
    rw [add_cl2Port1 slot]
    intro second
    exact absurd ((t.slot_cl2Port1 _).mp slot).2 (ordered second)
  | cl2Port2 =>
    rw [add_cl2Port2 slot]
    exact fun _ => ((t.slot_cl2Port2 _).mp slot).2.1
  | third => rwa [add_third slot]

theorem filled_complete {t : PsTransaction} (ordered : t.Ordered) (both : t.complete) : t.filled = 4 := by
  simp [filled,present,both.1,both.2,ordered both.1]

end PsTransaction

namespace UdpServer

theorem psHandle_total (weight : PsTransaction → Nat) (map : PsMap) (req : PsRequest) :
    total (weighed weight) (psHandle map req).1 + weighed weight (map req.transactionId) =
      total (weighed weight) map + weighed weight ((psHandle map req).1 req.transactionId) := by
  have updated : (psHandle map req).1 =
      Function.update map req.transactionId ((psHandle map req).1 req.transactionId) := by
    funext k
    by_cases same : k = req.transactionId
    · subst k
      rw [Function.update_self]
    · rw [Function.update_of_ne same]
      exact psHandle_other same
  conv_lhs => rw [updated]
  exact total_update (weighed weight) map req.transactionId _

theorem psHandle_budget (map : PsMap) (req : PsRequest)
    (ordered : ∀ k t, map k = some t → t.Ordered) :
    2 * (psHandle map req).2.length + total (weighed PsTransaction.filled) (psHandle map req).1 ≤
      3 + total (weighed PsTransaction.filled) map := by
  have moved := psHandle_total PsTransaction.filled map req
  cases alive : live map req with
  | none =>
    rw [psHandle_opened alive] at moved ⊢
    simp only [Function.update_self,weighed_some,PsTransaction.filled_create,List.length_singleton]
      at moved ⊢
    omega
  | some t =>
    have stored := live_stored alive
    have more := t.filled_add req
    by_cases done : matched t req
    · have all := PsTransaction.filled_complete
        (PsTransaction.ordered_add (ordered _ t stored) req) done.2
      rw [psHandle_matched alive done] at moved ⊢
      simp only [Function.update_self,weighed_none,stored,weighed_some,replies,List.length_cons,
        List.length_nil] at moved ⊢
      omega
    · rw [psHandle_kept alive done] at moved ⊢
      simp only [Function.update_self,stored,weighed_some,List.length_singleton] at moved ⊢
      omega

theorem plainHandle_budget (map : ClientMap) (source : Endpoint) :
    2 * (plainHandle map source).2.length + total (weighed fun _ => 2) (plainHandle map source).1 ≤
      4 + total (weighed fun _ => 2) map := by
  cases found : map 0 with
  | none =>
    have moved := total_update (weighed fun _ => 2) map 0 (some source.sockaddr)
    simp only [plainHandle,found,weighed_none,weighed_some,List.length_singleton] at moved ⊢
    omega
  | some copeer =>
    have moved := total_update (weighed fun _ => 2) map 0 none
    simp only [plainHandle,found,weighed_none,weighed_some,List.length_cons,List.length_nil] at moved ⊢
    omega

/-- The endpoints that wait in the two maps; a plain one counts for two. -/
noncomputable def waiting (s : UdpServer) : Nat :=
  total (weighed fun _ => 2) s.transactionClientMap +
    total (weighed PsTransaction.filled) s.psTransactionClientMap

theorem waiting_init : waiting init = 0 := by
  have empty {A : Type} (weight : A → Nat) : total (weighed weight) (fun _ : UInt32 => none) = 0 :=
    (total_of_forall _ _ 0 fun _ => rfl).trans (Nat.mul_zero _)
  simp only [waiting,init,empty]

/-- Half a datagram is counted as one. -/
def allowance (s : UdpServer) (d : Received) : Nat :=
  if (s.buffer d).type = some .bindRequest then 4 else 3

def AllOrdered (s : UdpServer) : Prop := ∀ k t, s.psTransactionClientMap k = some t → t.Ordered

theorem handle_allOrdered (s : UdpServer) (d : Received) (before : AllOrdered s) :
    AllOrdered (handle s d).1 := by
  rcases handle_psCases s d with ⟨map,_⟩ | ⟨map,_⟩
  · rw [AllOrdered,map]
    apply psHandle_records (P := fun _ t => t.Ordered) (fun k t _ => before k t)
    · exact fun _ second => absurd rfl second
    · exact fun t alive _ => PsTransaction.ordered_add (before _ t (live_stored alive)) _
  · rw [AllOrdered,map]
    exact before

theorem handle_budget (s : UdpServer) (d : Received) (ordered : AllOrdered s) :
    2 * (handle s d).2.length + waiting (handle s d).1 ≤ allowance s d + waiting s := by
  unfold waiting allowance
  by_cases scanning : (s.buffer d).type = some .psBindRequest
  · obtain ⟨map,plain,sent⟩ := handle_scan scanning
    have budget := psHandle_budget s.psTransactionClientMap (s.psRequest d) ordered
    rw [map,plain,sent,scanning,if_neg (by decide)]
    omega
  · rw [handle_notScan scanning]
    by_cases asking : (s.buffer d).type = some .bindRequest
    · obtain ⟨map,sent⟩ := handle_plain asking
      have budget := plainHandle_budget s.transactionClientMap d.source
      rw [map,sent,if_pos asking]
      omega
    · have few : (handle s d).2.length ≤ 1 ∧
          (handle s d).1.transactionClientMap = s.transactionClientMap := by
        unfold handle
        split
        · contradiction
        · contradiction
        · exact ⟨Nat.le_refl 1,rfl⟩
        · exact ⟨Nat.zero_le 1,rfl⟩
      rw [few.2,if_neg asking]
      omega

/-- Over any run the server sends at most two datagrams for each plain request and three
for every two other datagrams, less what the endpoints still waiting have saved. -/
theorem traffic_bounded (ds : List Received) :
    2 * (outputs handle init ds).length + waiting (run handle init ds) ≤ paid handle allowance init ds := by
  have keep (s : UdpServer) (d : Received) (before : AllOrdered s) (_ : True) : AllOrdered (handle s d).1 :=
    handle_allOrdered s d before
  have step (s : UdpServer) (d : Received) (before : AllOrdered s) (_ : True) :
      2 * (handle s d).2.length + waiting (handle s d).1 ≤ allowance s d + waiting s :=
    handle_budget s d before
  have start : AllOrdered init := fun _ _ => nofun
  have bound := paid_le waiting keep step start
    (along_of_forall init ds fun _ _ _ => trivial)
  rwa [paid_sent,waiting_init] at bound

end UdpServer

end P2pStun
