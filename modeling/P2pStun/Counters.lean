import Mathlib.Algebra.Order.BigOperators.Group.Finset
import Mathlib.Algebra.Order.Group.Unbundled.Int
import Mathlib.Data.Fintype.BigOperators
import Mathlib.Data.Nat.Count

/-! Counters: totals over the members of a finite family that changes one member at a time,
places in the 16-bit space counted from one of them onwards and around, and a counter of
attempts with the times at which it comes to zero. -/
namespace P2pStun.Totals

variable {W A : Type} [Fintype W]

def total (weight : A → Nat) (members : W → A) : Nat := ∑ w, weight (members w)

theorem total_update [DecidableEq W] (weight : A → Nat) (members : W → A) (w : W) (a : A) :
    total weight (Function.update members w a) + weight (members w) = total weight members + weight a := by
  have others : ∑ v ∈ Finset.univ.erase w, weight (Function.update members w a v) =
      ∑ v ∈ Finset.univ.erase w, weight (members v) := by
    apply Finset.sum_congr rfl
    intro v member
    rw [Function.update_of_ne (Finset.ne_of_mem_erase member)]
  have after := Finset.sum_erase_add Finset.univ (fun v => weight (Function.update members w a v))
    (Finset.mem_univ w)
  have before := Finset.sum_erase_add Finset.univ (fun v => weight (members v)) (Finset.mem_univ w)
  simp only [Function.update_self] at after
  rw [total,total,← after,← before,others]
  omega

theorem total_le (weight : A → Nat) (members : W → A) (bound : ∀ a, weight a ≤ 1) :
    total weight members ≤ Fintype.card W := by
  have each : ∑ w, weight (members w) ≤ ∑ _w : W, 1 := Finset.sum_le_sum fun w _ => bound (members w)
  exact each.trans_eq Fintype.card_eq_sum_ones.symm

theorem total_of_forall (weight : A → Nat) (members : W → A) (n : Nat)
    (all : ∀ w, weight (members w) = n) : total weight members = Fintype.card W * n :=
  Finset.sum_const_nat fun w _ => all w

end P2pStun.Totals

namespace P2pStun.Offsets

def place (origin : UInt16) (offset : Nat) : UInt16 := origin + .ofNat offset

def offset (origin x : UInt16) : Nat := (x - origin).toNat

variable (origin x y : UInt16) (n k : Nat)

theorem toNat_place : (place origin n).toNat = (origin.toNat + n) % 65536 := by
  simp [place]

@[simp] theorem place_zero : place origin 0 = origin := UInt16.add_zero origin

theorem place_add : place origin n + .ofNat k = place origin (n + k) := by
  rw [place,place,UInt16.ofNat_add,UInt16.add_assoc]

theorem place_offset : place origin (offset origin x) = x := by
  apply UInt16.toNat_inj.mp
  rw [toNat_place,offset,UInt16.toNat_sub]
  have := origin.toNat_lt
  have := x.toNat_lt
  omega

theorem offset_place (inside : n < 65536) : offset origin (place origin n) = n := by
  rw [offset,UInt16.toNat_sub,toNat_place]
  have := origin.toNat_lt
  omega

theorem offset_add (inside : offset origin x + k < 65536) :
    offset origin (x + .ofNat k) = offset origin x + k := by
  have moved := offset_place origin (offset origin x + k) inside
  rwa [← place_add,place_offset] at moved

/-- A place that comes a while before another and as long before the end is as far from it
in numbers. -/
theorem apart_of_offset (before : offset origin x + k ≤ offset origin y)
    (room : offset origin y + k ≤ 65536) : (k : Int) ≤ |(x.toNat : Int) - y.toNat| := by
  have first := toNat_place origin (offset origin x)
  have second := toNat_place origin (offset origin y)
  rw [place_offset] at first second
  have := origin.toNat_lt
  rw [le_abs]
  omega

end P2pStun.Offsets

/-! The counter of attempts is counted down, left alone, filled up again or dropped by an
endless sequence of effects. -/
namespace P2pStun.Countdown

inductive Effect
  | spend | keep | refill | stop
deriving DecidableEq

variable (first again : Nat) (effect : Nat → Effect)

def next (left : Nat) : Effect → Nat
  | .spend => left - 1
  | .keep => left
  | .refill => if left = 0 then 0 else again
  | .stop => 0

def left : Nat → Nat
  | 0 => first
  | i + 1 => next again (left i) (effect i)

def budget : Nat → Nat
  | 0 => first
  | _ + 1 => again

def Fresh : Nat → Prop
  | 0 => True
  | a + 1 => effect a = .refill

def spent (a length : Nat) : Nat := Nat.count (fun i => effect (a + i) = .spend) length

def Unfilled (a length : Nat) : Prop := ∀ i < length, effect (a + i) ≠ .refill

/-- It is dropped, or a stretch without filling up spends all there was at its beginning. -/
def Exhausts : Prop :=
  (∃ i, effect i = .stop) ∨
    ∃ a length, Fresh effect a ∧ Unfilled effect a length ∧ budget first again a ≤ spent effect a length

variable {first again effect}

@[simp] theorem left_zero : left first again effect 0 = first := rfl

theorem left_succ (i : Nat) :
    left first again effect (i + 1) = next again (left first again effect i) (effect i) := rfl

theorem spent_succ (a length : Nat) :
    spent effect a (length + 1) =
      spent effect a length + if effect (a + length) = .spend then 1 else 0 :=
  Nat.count_succ _ length

theorem left_le_of_fresh (a : Nat) (fresh : Fresh effect a) :
    left first again effect a ≤ budget first again a := by
  cases a with
  | zero => exact le_rfl
  | succ a =>
    have filled : effect a = .refill := fresh
    simp only [left_succ,filled,next,budget]
    split <;> omega

theorem left_add_spent_le (a : Nat) (fresh : Fresh effect a) (length : Nat)
    (unfilled : Unfilled effect a length) (room : spent effect a length < budget first again a) :
    left first again effect (a + length) + spent effect a length ≤ budget first again a := by
  induction length with
  | zero => simpa [spent] using left_le_of_fresh a fresh
  | succ length ih =>
    rw [spent_succ] at room ⊢
    have earlier := ih (fun i below => unfilled i (by omega)) (by omega)
    have filled := unfilled length (by omega)
    rw [show a + (length + 1) = a + length + 1 from rfl,left_succ]
    generalize effect (a + length) = now at filled room ⊢
    cases now with
    | spend =>
      simp only [next,if_true] at room ⊢
      omega
    | keep => simpa [next] using earlier
    | refill => exact absurd rfl filled
    | stop =>
      simp only [next] at room ⊢
      simp
      omega

/-- As long as something is left, it is what the latest stretch has not spent. -/
theorem stretch_of_left (i : Nat) (more : left first again effect i ≠ 0) :
    ∃ a length, a + length = i ∧ Fresh effect a ∧ Unfilled effect a length ∧
      left first again effect i + spent effect a length = budget first again a := by
  induction i with
  | zero => exact ⟨0,0,rfl,trivial,fun i below => absurd below (Nat.not_lt_zero i),by simp [spent,budget]⟩
  | succ i ih =>
    rw [left_succ] at more
    cases now : effect i with
    | refill =>
      rw [now,next] at more
      have before : left first again effect i ≠ 0 := fun none => more (if_pos none)
      refine ⟨i + 1,0,rfl,now,fun j below => absurd below (Nat.not_lt_zero j),?_⟩
      simp [left_succ,now,next,before,spent,budget]
    | stop =>
      rw [now] at more
      exact absurd rfl more
    | spend | keep =>
      rw [now] at more
      have before : left first again effect i ≠ 0 := by
        intro none
        simp [none,next] at more
      obtain ⟨a,length,rfl,fresh,unfilled,sum⟩ := ih before
      refine ⟨a,length + 1,rfl,fresh,?_,?_⟩
      · intro j below
        rcases Nat.lt_succ_iff_lt_or_eq.mp below with earlier | rfl
        · exact unfilled j earlier
        · simp [now]
      · rw [spent_succ,left_succ,now]
        simp only [next] at more ⊢
        simp
        omega

theorem left_zero_iff (some_first : 0 < first) (some_again : 0 < again) :
    (∃ i, left first again effect i = 0) ↔ Exhausts first again effect := by
  constructor
  · intro ends
    by_contra endless
    obtain ⟨unstopped,unspent⟩ := not_or.mp endless
    have more (i : Nat) : left first again effect i ≠ 0 := by
      induction i with
      | zero => exact Nat.pos_iff_ne_zero.mp some_first
      | succ i ih =>
        intro none
        rw [left_succ] at none
        cases now : effect i with
        | spend =>
          -- the last attempt ends its stretch
          obtain ⟨a,length,rfl,fresh,unfilled,sum⟩ := stretch_of_left i ih
          rw [now] at none
          have one : left first again effect (a + length) - 1 = 0 := none
          refine unspent ⟨a,length + 1,fresh,?_,?_⟩
          · intro j below
            rcases Nat.lt_succ_iff_lt_or_eq.mp below with earlier | rfl
            · exact unfilled j earlier
            · simp [now]
          · rw [spent_succ,if_pos now]
            omega
        | keep =>
          rw [now] at none
          exact ih none
        | refill =>
          rw [now,next,if_neg ih] at none
          omega
        | stop => exact unstopped ⟨i,now⟩
    obtain ⟨i,none⟩ := ends
    exact more i none
  · rintro (⟨i,stops⟩ | ⟨a,length,fresh,unfilled,enough⟩)
    · exact ⟨i + 1,by rw [left_succ,stops]; rfl⟩
    · by_contra endless
      have more (i : Nat) : left first again effect i ≠ 0 := fun none => endless ⟨i,none⟩
      induction length with
      | zero =>
        have some_budget : 0 < budget first again a := by
          cases a
          · exact some_first
          · exact some_again
        simp [spent] at enough
        omega
      | succ length ih =>
        by_cases room : spent effect a length < budget first again a
        · have sum := left_add_spent_le a fresh length (fun j below => unfilled j (by omega)) room
          have here := more (a + length)
          have after := more (a + length + 1)
          rw [spent_succ] at enough
          rw [left_succ] at after
          cases now : effect (a + length) with
          | spend =>
            rw [now] at after
            simp only [next] at after
            simp only [now,if_true] at enough
            omega
          | keep | refill | stop =>
            simp only [now] at enough
            simp at enough
            omega
        · exact ih (fun j below => unfilled j (by omega)) (by omega)

end P2pStun.Countdown
