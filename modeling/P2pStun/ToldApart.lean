import P2pStun.AlikeCalls
import P2pStun.AttemptsEnd

/-! What a caller can tell apart. Of two calls that stand in different places one outlasts
some quiet rounds and then takes a request, while the other one has failed by then. -/
namespace P2pStun
open Runs

def Connecting.result (k : Connecting) : Option ConnectResult :=
  match k.progress with
  | .returned r => some r
  | _ => none

def SameOutcome (k j : Connecting) : Prop :=
  k.result = j.result ∧ k.socket.targetAddress = j.socket.targetAddress

instance (k j : Connecting) : Decidable (SameOutcome k j) := inferInstanceAs (Decidable (_ ∧ _))

theorem SameEnd.sameOutcome {k j : Connecting} (same : SameEnd k j) : SameOutcome k j := by
  obtain ⟨place,target⟩ := same
  exact ⟨by rw [Connecting.result,Connecting.result,place],target⟩

theorem result_returned {k : Connecting} {r : ConnectResult} (ended : k.progress = .returned r) :
    k.result = some r := by
  rw [Connecting.result,ended]

/-- At most so many quiet rounds are left until the call has failed. -/
inductive Fails (n : Nat) (k : Connecting) : Prop
  | waiting (second : Bool) (waits : k.progress = .awaitAck second) (some_left : 0 < n)
  | receiving (i : Nat) (receiving : k.progress = .receiving i) (positive : 0 < i) (few : i ≤ n)
      (unconnected : k.state ≠ .connected)
  | failed (r : ConnectResult) (ended : k.progress = .returned r) (failed : r ≠ .connectionSuccessful)

def Lasts (n : Nat) (k : Connecting) : Prop := ∃ i, n < i ∧ k.progress = .receiving i

theorem result_of_unconnected {state : ConnectorState} (unconnected : state ≠ .connected) :
    state.result ≠ .connectionSuccessful := by
  cases state with
  | connected => exact absurd rfl unconnected
  | _ => decide

theorem fails_again {k : Connecting} (n : Nat) (unconnected : k.state ≠ .connected) : Fails n (k.again n) := by
  by_cases none : n = 0
  · refine .failed k.state.result ?_ (result_of_unconnected unconnected)
    rw [Connecting.again,if_pos none]
  · refine .receiving n ?_ (Nat.pos_iff_ne_zero.mpr none) le_rfl unconnected
    rw [Connecting.again,if_neg none]

theorem Fails.mono {k : Connecting} {n N : Nat} (fails : Fails n k) (more : n ≤ N) : Fails N k := by
  cases fails with
  | waiting second waits some_left => exact .waiting second waits (some_left.trans_le more)
  | receiving i receiving positive few unconnected =>
    exact .receiving i receiving positive (few.trans more) unconnected
  | failed r ended failed => exact .failed r ended failed

section Probes

variable {S E : Type} (m : Machine S E Outgoing) (view : S → Connecting)

/-- A quiet round and one with a request that carries the id. -/
structure Probes (quiet request : E) : Prop where
  waits : ∀ s second, (view s).progress = .awaitAck second →
    (view (m s quiet).1).progress = .returned .connectionError
  spends : ∀ s n, (view s).progress = .receiving n → view (m s quiet).1 = (view s).again (n - 1)
  answers : ∀ s n, (view s).progress = .receiving n →
    (view (m s request).1).progress = .returned .connectionSuccessful
  stays : ∀ s e r, (view s).progress = .returned r → (m s e).1 = s

variable {m view} {quiet request : E} (probes : Probes m view quiet request)
include probes

theorem fails_quiet {n : Nat} {s : S} (fails : Fails (n + 1) (view s)) : Fails n (view (m s quiet).1) := by
  cases fails with
  | waiting second waits some_left =>
    exact .failed .connectionError (probes.waits s second waits) (by decide)
  | receiving i receiving positive few unconnected =>
    rw [probes.spends s i receiving]
    exact (fails_again (i - 1) unconnected).mono (by omega)
  | failed r ended failed =>
    rw [probes.stays s quiet r ended]
    exact .failed r ended failed

theorem lasts_quiet {n : Nat} {s : S} (lasts : Lasts (n + 1) (view s)) : Lasts n (view (m s quiet).1) := by
  obtain ⟨i,more,receiving⟩ := lasts
  refine ⟨i - 1,by omega,?_⟩
  rw [probes.spends s i receiving,Connecting.again,if_neg (by omega)]

theorem told_apart {n : Nat} {s t : S} (fails : Fails n (view s)) (lasts : Lasts n (view t)) :
    (view (run m s (List.replicate n quiet ++ [request]))).result ≠
      (view (run m t (List.replicate n quiet ++ [request]))).result := by
  induction n generalizing s t with
  | zero =>
    obtain ⟨i,-,receiving⟩ := lasts
    rw [List.replicate_zero,List.nil_append,run_cons,run_cons,run_nil,run_nil,
      result_returned (probes.answers t i receiving)]
    cases fails with
    | waiting second waits some_left => exact absurd some_left (lt_irrefl 0)
    | receiving i receiving positive few unconnected => exact absurd (positive.trans_le few) (lt_irrefl 0)
    | failed r ended failed =>
      rw [probes.stays s request r ended,result_returned ended]
      exact fun same => failed (Option.some.inj same)
  | succ n ih =>
    rw [List.replicate_succ,List.cons_append,run_cons,run_cons]
    exact ih (fails_quiet probes fails) (lasts_quiet probes lasts)

end Probes

section Indistinct

variable {S E : Type} (m : Machine S E Outgoing) (view : S → Connecting) (round : E → ReceiveStep)

/-- Whatever whole datagrams come next, the two calls have the same outcome. -/
def Indistinct (s t : S) : Prop :=
  ∀ rest, (∀ e ∈ rest, FullLength (round e)) → SameOutcome (view (run m s rest)) (view (run m t rest))

variable {m view round}

theorem Indistinct.symm {s t : S} (same : Indistinct m view round s t) : Indistinct m view round t s := by
  intro rest whole
  obtain ⟨result,target⟩ := same rest whole
  exact ⟨result.symm,target.symm⟩

theorem Indistinct.next {s t : S} (same : Indistinct m view round s t) {e : E}
    (whole : FullLength (round e)) : Indistinct m view round (m s e).1 (m t e).1 := by
  intro rest later
  apply same (e :: rest)
  intro f member
  rcases List.mem_cons.mp member with rfl | inside
  · exact whole
  · exact later f inside

theorem Indistinct.lasts_elim {quiet request : E} (probes : Probes m view quiet request)
    (wholeQuiet : FullLength (round quiet)) (wholeRequest : FullLength (round request)) {s t : S}
    (same : Indistinct m view round s t) {n : Nat} (fails : Fails n (view s)) (lasts : Lasts n (view t)) :
    False := by
  refine told_apart probes fails lasts (same _ ?_).1
  intro e member
  rcases List.mem_append.mp member with quietly | last
  · rw [List.eq_of_mem_replicate quietly]
    exact wholeQuiet
  · rw [List.mem_singleton.mp last]
    exact wholeRequest

theorem indistinct_of_alike {R : S → S → Prop} {reads : S → S → E → Prop}
    (both : ∀ s t e, R s t → reads s t e → R (m s e).1 (m t e).1 ∧ (m s e).2 = (m t e).2)
    (ends : ∀ s t, R s t → SameEnd (view s) (view t))
    (wholly : ∀ s t e, FullLength (round e) → reads s t e) (s t : S) (alike : R s t) :
    Indistinct m view round s t := by
  intro rest whole
  induction rest generalizing s t with
  | nil => exact (ends s t alike).sameOutcome
  | cons e rest ih =>
    have read := wholly s t e (whole e List.mem_cons_self)
    exact ih _ _ (both s t e alike read).1 fun f member => whole f (List.mem_cons_of_mem e member)

end Indistinct

theorem fullLength_quiet : FullLength quiet := nofun

theorem handlingOf_request {reply : MessageType} (other : MessageType.clientBindRequest ≠ reply)
    {known : SockaddrIn → Prop} [DecidablePred known] (id : UInt32) (source : Endpoint) (k : Connecting) :
    handlingOf reply known id k (requestOf id source).outcome = .answered := by
  simp [requestOf,arrives,Incoming.whole,handlingOf,other,Connecting.took]

namespace P2pConnector

variable (c : P2pConnector)

theorem probes (source : Endpoint) : Probes c.connect id quiet (requestOf c.transactionId source) where
  waits k second waits := by
    change (c.connect k quiet).1.progress = _
    rw [c.connect_awaitAck k quiet second waits]
    rfl
  spends k n receiving := by
    change (c.connect k quiet).1 = k.again (n - 1)
    rw [c.connect_receiving k n quiet receiving]
    rfl
  answers k n receiving := by
    have answered : c.handling k (requestOf c.transactionId source).outcome = .answered :=
      handlingOf_request (by decide) c.transactionId source k
    change (c.connect k (requestOf c.transactionId source)).1.progress = _
    rw [c.connect_receiving k n _ receiving,answered]
    rfl
  stays k e r ended := by rw [c.connect_returned k e r ended]

end P2pConnector

namespace P2pPsConnector

variable {fpu : FloatUnit} (c : P2pPsConnector)

def finds (e : PsStep fpu) (r : ReceiveStep) : PsStep fpu := {e with toReceiveStep := r}

theorem probes (e : PsStep fpu) (source : Endpoint) :
    Probes c.connect (·.toConnecting) (finds e quiet) (finds e (requestOf c.transactionId source)) where
  waits k second waits := by
    cases second with
    | false =>
      rw [c.connect_awaitFirst k _ waits]
      rfl
    | true =>
      rw [c.connect_awaitSecond k _ waits]
      rfl
  spends k n receiving := by
    rw [c.connect_receiving k n _ receiving]
    rfl
  answers k n receiving := by
    have answered : c.handling k (finds e (requestOf c.transactionId source)).outcome = .answered :=
      handlingOf_request (by decide) c.transactionId source k.toConnecting
    rw [c.connect_receiving k n _ receiving,answered]
    rfl
  stays k f r ended := by rw [c.connect_returned k f r ended]

end P2pPsConnector

end P2pStun
