import P2pStun.Counters
import P2pStun.ReceiveLoop

/-! Whether the receive loops end. Acks and messages from unknown hosts are received at no
cost, and each reply of the server that is acted upon fills the attempts up again. -/
namespace P2pStun
open Runs Countdown

section Loops

variable {S E : Type} (m : Machine S E Outgoing) (view : S → Connecting)

def Ends (s : S) (es : Nat → E) : Prop := ∃ i r, (view (states m s es i)).progress = .returned r

def Connecting.attempts (k : Connecting) : Nat :=
  match k.progress with
  | .receiving n => n
  | _ => 0

def Entered (k : Connecting) : Prop :=
  (∃ n, 0 < n ∧ k.progress = .receiving n) ∨ ∃ r, k.progress = .returned r

variable {m view}

theorem Entered.returned_iff {k : Connecting} (entered : Entered k) :
    (∃ r, k.progress = .returned r) ↔ k.attempts = 0 := by
  rw [Connecting.attempts]
  rcases entered with ⟨n,positive,receiving⟩ | ⟨r,returned⟩
  · simp [receiving,Nat.pos_iff_ne_zero.mp positive]
  · simp [returned]

def Counts (again : Nat) (k next : Connecting) (effect : Effect) : Prop :=
  Entered next ∧ next.attempts = Countdown.next again k.attempts effect

theorem counts_again (refill : Nat) (k h : Connecting) (n left : Nat) (effect : Effect)
    (receiving : k.progress = .receiving n) (counted : Countdown.next refill n effect = left) :
    Counts refill k (h.again left) effect := by
  have attempts : k.attempts = n := by rw [Connecting.attempts,receiving]
  rw [Counts,attempts,counted]
  by_cases none : left = 0
  · have ended : (h.again left).progress = .returned h.state.result := by rw [Connecting.again,if_pos none]
    exact ⟨Or.inr ⟨_,ended⟩,by rw [Connecting.attempts,ended,none]⟩
  · have goes_on : (h.again left).progress = .receiving left := by rw [Connecting.again,if_neg none]
    exact ⟨Or.inl ⟨left,Nat.pos_iff_ne_zero.mpr none,goes_on⟩,by rw [Connecting.attempts,goes_on]⟩

theorem counts_returned (refill : Nat) (k h : Connecting) (r : ConnectResult)
    (ended : h.progress = .returned r) : Counts refill k h .stop := by
  refine ⟨Or.inr ⟨r,ended⟩,?_⟩
  rw [Connecting.attempts,ended]
  rfl

theorem counts_stays (refill : Nat) (k : Connecting) (r : ConnectResult) (effect : Effect)
    (ended : k.progress = .returned r) : Counts refill k k effect := by
  have none : k.attempts = 0 := by rw [Connecting.attempts,ended]
  refine ⟨Or.inr ⟨r,ended⟩,?_⟩
  rw [none]
  cases effect <;> rfl

theorem attempts_states {again : Nat} {effect : S → E → Effect}
    (step : ∀ s e, Entered (view s) → Counts again (view s) (view (m s e).1) (effect s e))
    (s : S) (entered : Entered (view s)) (es : Nat → E) (i : Nat) :
    Entered (view (states m s es i)) ∧ (view (states m s es i)).attempts =
      left (view s).attempts again (fun i => effect (states m s es i) (es i)) i := by
  induction i with
  | zero => exact ⟨entered,rfl⟩
  | succ i ih =>
    obtain ⟨inside,counted⟩ := ih
    obtain ⟨next,fewer⟩ := step (states m s es i) (es i) inside
    rw [states_succ,left_succ,← counted]
    exact ⟨next,fewer⟩

theorem ends_iff {again : Nat} {effect : S → E → Effect}
    (step : ∀ s e, Entered (view s) → Counts again (view s) (view (m s e).1) (effect s e))
    (s : S) (first : Nat) (some_first : 0 < first) (some_again : 0 < again)
    (receiving : (view s).progress = .receiving first) (es : Nat → E) :
    Ends m view s es ↔ Exhausts first again (fun i => effect (states m s es i) (es i)) := by
  have attempts : (view s).attempts = first := by rw [Connecting.attempts,receiving]
  rw [← left_zero_iff some_first some_again]
  refine exists_congr (fun i => ?_)
  obtain ⟨inside,counted⟩ := attempts_states step s (Or.inl ⟨first,some_first,receiving⟩) es i
  rw [inside.returned_iff,counted,attempts]

end Loops

namespace P2pConnector

variable (c : P2pConnector)

def effect (k : Connecting) (e : ReceiveStep) : Effect :=
  match c.handling k e.outcome with
  | .silent | .costs => .spend
  | .ignored => .keep
  | .replied => .refill
  | .answered | .responded => .stop

theorem connect_counts (k : Connecting) (e : ReceiveStep) (entered : Entered k) :
    Counts 3 k (c.connect k e).1 (c.effect k e) := by
  rcases entered with ⟨n,positive,receiving⟩ | ⟨r,returned⟩
  · rw [c.connect_receiving k n e receiving,effect]
    cases c.handling k e.outcome with
    | silent => exact counts_again 3 k _ n (n - 1) .spend receiving rfl
    | costs => exact counts_again 3 k _ n (n - 1) .spend receiving rfl
    | ignored => exact counts_again 3 k _ n n .keep receiving rfl
    | replied =>
      exact counts_again 3 k _ n 3 .refill receiving (if_neg (Nat.pos_iff_ne_zero.mp positive))
    | answered => exact counts_returned 3 k _ _ rfl
    | responded => exact counts_returned 3 k _ _ rfl
  · rw [c.connect_returned k e r returned]
    exact counts_stays 3 k r _ returned

end P2pConnector

namespace P2pPsConnector

variable {fpu : FloatUnit} (c : P2pPsConnector)

def effect (k : PsConnecting) (e : PsStep fpu) : Effect :=
  match c.handling k e.outcome with
  | .silent | .costs => .spend
  | .ignored => .keep
  | .replied =>
    let k := heard k e.outcome
    if (c.tryStartPsConnection k k.message.psBindReply e).2.1 = 1 then .refill else .stop
  | .answered | .responded => .stop

theorem connect_counts (k : PsConnecting) (e : PsStep fpu) (entered : Entered k.toConnecting) :
    Counts 1 k.toConnecting (c.connect k e).1.toConnecting (c.effect k e) := by
  rcases entered with ⟨n,positive,receiving⟩ | ⟨r,returned⟩
  · rw [c.connect_receiving k n e receiving,effect]
    cases c.handling k e.outcome with
    | silent => exact counts_again 1 k.toConnecting _ n (n - 1) .spend receiving rfl
    | costs => exact counts_again 1 k.toConnecting _ n (n - 1) .spend receiving rfl
    | ignored => exact counts_again 1 k.toConnecting _ n n .keep receiving rfl
    | replied =>
      simp only [handled]
      split
      · exact counts_again 1 k.toConnecting _ n 1 .refill receiving
          (if_neg (Nat.pos_iff_ne_zero.mp positive))
      · exact counts_returned 1 k.toConnecting _ _ rfl
    | answered => exact counts_returned 1 k.toConnecting _ _ rfl
    | responded => exact counts_returned 1 k.toConnecting _ _ rfl
  · rw [c.connect_returned k e r returned]
    exact counts_stays 1 k.toConnecting r _ returned

end P2pPsConnector

/-- For both connectors, in which endless sequences of outcomes the receive loop ends. -/
theorem receiveLoop_ends_iff (c : P2pConnector) (k : Connecting) (es : Nat → ReceiveStep)
    (fpu : FloatUnit) (p : P2pPsConnector) (j : PsConnecting) (fs : Nat → PsStep fpu) :
    (Ends c.connect id {k with progress := .receiving 10} es ↔
      Exhausts 10 3 (fun i => c.effect (states c.connect {k with progress := .receiving 10} es i) (es i))) ∧
    (Ends p.connect (·.toConnecting) {j with progress := .receiving 5} fs ↔
      Exhausts 5 1 (fun i => p.effect (states p.connect {j with progress := .receiving 5} fs i) (fs i))) := by
  constructor
  · exact ends_iff c.connect_counts _ 10 (by decide) (by decide) rfl es
  · exact ends_iff p.connect_counts _ 5 (by decide) (by decide) rfl fs

def endlessAcks : Nat → ReceiveStep := fun _ => ackOf ⟨1,10⟩

theorem endlessAcks_not_ends :
    ¬Ends (P2pConnector.connect ⟨⟨1,10⟩,7⟩) id
      (P2pConnector.connect ⟨⟨1,10⟩,7⟩ (P2pConnector.start ⟨⟨1,10⟩,7⟩ .create true).1 (endlessAcks 0)).1
      endlessAcks := by
  intro ends
  have keep (k : Connecting) (i : Nat) : P2pConnector.effect ⟨⟨1,10⟩,7⟩ k (endlessAcks i) = .keep := rfl
  have exhausts := (ends_iff (P2pConnector.connect_counts ⟨⟨1,10⟩,7⟩) _ 10 (by decide) (by decide)
    (by decide) endlessAcks).mp ends
  simp only [keep] at exhausts
  rcases exhausts with ⟨_,stops⟩ | ⟨a,length,_,_,enough⟩
  · exact Effect.noConfusion stops
  · cases a <;> simp [spent,budget] at enough

end P2pStun
