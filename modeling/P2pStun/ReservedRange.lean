import P2pStun.PortDraws
import Mathlib.Data.Rat.Floor
import Mathlib.Tactic.FieldSimp
import Mathlib.Tactic.Positivity
import Mathlib.Tactic.Ring

/-! Whether the reserved range holds the ports of an attempt under simulated allocations.
Each draw moves on by one port and by the share of the simulated rate since the draw
before it, rounded to the nearest integer. -/
namespace P2pStun
open Runs

def share (rate : UInt16) (elapsed : Nat) : Nat := (2 * (elapsed * rate.toNat) + 1000) / 2000

def shares (rate : UInt16) : UInt64 → List UInt64 → List Nat
  | _, [] => []
  | stamp, now :: later => share rate (now - stamp).toNat :: shares rate now later

/-- How far behind the base the ports are, from a number of ports already used. -/
def totals : Nat → List Nat → List Nat
  | _, [] => []
  | used, moved :: later => (used + moved + 1) :: totals (used + moved + 1) later

def repaired (minPort port : UInt16) : UInt16 := if port < minPort then port + minPort else port

theorem totals_le (used : Nat) (moved : List Nat) :
    ∀ n ∈ totals used moved, n ≤ used + moved.length + moved.sum := by
  induction moved generalizing used with
  | nil => exact fun n member => absurd member List.not_mem_nil
  | cons first later ih =>
    intro n member
    rw [List.length_cons,List.sum_cons]
    rcases List.mem_cons.mp member with rfl | after
    · omega
    · have most := ih _ n after
      omega

theorem last_mem_totals (used : Nat) (moved : List Nat) (some_draw : moved ≠ []) :
    used + moved.length + moved.sum ∈ totals used moved := by
  induction moved generalizing used with
  | nil => exact absurd rfl some_draw
  | cons first later ih =>
    rw [List.length_cons,List.sum_cons]
    by_cases single : later = []
    · simp [single,totals]
      omega
    · have last := ih (used + first + 1) single
      rw [show used + (later.length + 1) + (first + later.sum) =
        used + first + 1 + later.length + later.sum by omega]
      exact List.mem_cons_of_mem _ last

theorem shares_length (rate : UInt16) (stamp : UInt64) (times : List UInt64) :
    (shares rate stamp times).length = times.length := by
  induction times generalizing stamp with
  | nil => rfl
  | cons now later ih => simp [shares,ih]

theorem exact_toUInt16_div (n d : Nat) :
    FloatUnit.exact.toUInt16 ((n : ℚ) / (d : ℚ) : ℚ) = .ofNat (n / d) := by
  have least : (0 : ℚ) ≤ (n : ℚ) / (d : ℚ) := by positivity
  have floor : ((n : ℚ) / (d : ℚ)).num.tdiv ((n : ℚ) / (d : ℚ)).den = ((n / d : ℕ) : ℤ) := by
    rw [Int.tdiv_eq_ediv_of_nonneg (Rat.num_nonneg.mpr least),← Rat.floor_def',Rat.floor_natCast_div_natCast]
    rfl
  show UInt16.ofInt _ = _
  rw [floor,UInt16.ofInt,← UInt16.toNat_inj,UInt16.toNat_ofNat',UInt16.toNat_ofNat']
  omega

namespace PortManager

theorem simulatedOffset_exact (p : PortManager) (old : UInt64) (d : Draw .exact) (one : d.rndVal = (1 : ℚ))
    (simulated : p.simulatedNormalAllocsPerSecond ≠ 0) :
    p.simulatedOffset old d = .ofNat (share p.simulatedNormalAllocsPerSecond (d.now - old).toNat) := by
  have value : (((d.now - old).toNat : ℚ) / (1000 : ℕ) * p.simulatedNormalAllocsPerSecond.toNat * 1 +
      (1 : ℕ) / (2 : ℕ) : ℚ) =
      ((2 * ((d.now - old).toNat * p.simulatedNormalAllocsPerSecond.toNat) + 1000 : ℕ) : ℚ) / (2000 : ℕ) := by
    push_cast
    ring
  have positive : FloatUnit.exact.positive (1 : ℚ) = true := by decide
  rw [simulatedOffset,if_pos simulated,one]
  simp only [positive]
  rw [share,← exact_toUInt16_div,← value]
  rfl

theorem assignNextFromBase_simulated (p : PortManager) (basePort : UInt16) (d : Draw .exact) (data : PortData)
    (found : p.portResPortMap basePort = some data) (one : d.rndVal = (1 : ℚ))
    (simulated : p.simulatedNormalAllocsPerSecond ≠ 0) :
    let moved := share p.simulatedNormalAllocsPerSecond (d.now - data.timestampMs).toNat
    p.assignNextFromBase basePort d =
      ({p with
          portResPortMap :=
            Function.update p.portResPortMap basePort (some ⟨data.currentPort + .ofNat (moved + 1),d.now⟩)},
        repaired p.minPort (data.currentPort + .ofNat moved)) := by
  simp only [assignNextFromBase,found,p.simulatedOffset_exact _ d one simulated,if_pos simulated,repaired,
    UInt16.ofNat_add]
  rfl

theorem outputs_totals (p : PortManager) (basePort : UInt16) (draws : List (Draw .exact))
    (ones : ∀ d ∈ draws, d.rndVal = (1 : ℚ)) (simulated : p.simulatedNormalAllocsPerSecond ≠ 0)
    (used : Nat) (stamp : UInt64)
    (entry : p.portResPortMap basePort = some ⟨basePort + .ofNat (used + 1),stamp⟩) :
    outputs call p (draws.map (.assignNextFromBase basePort)) =
      (totals used (shares p.simulatedNormalAllocsPerSecond stamp (draws.map Draw.now))).map
        fun n => .fromBase basePort (repaired p.minPort (basePort + .ofNat n)) := by
  induction draws generalizing p used stamp with
  | nil => rfl
  | cons d draws ih =>
    obtain ⟨one,others⟩ := List.forall_mem_cons.mp ones
    have drawn := p.assignNextFromBase_simulated basePort d _ entry one simulated
    generalize moved : share p.simulatedNormalAllocsPerSecond (d.now - stamp).toNat = step at drawn
    dsimp only at drawn
    have port : basePort + .ofNat (used + 1) + .ofNat step = basePort + .ofNat (used + step + 1) := by
      rw [UInt16.add_assoc,← UInt16.ofNat_add,Nat.add_right_comm]
    have next : basePort + .ofNat (used + 1) + .ofNat (step + 1) = basePort + .ofNat (used + step + 1 + 1) := by
      rw [UInt16.add_assoc,← UInt16.ofNat_add,Nat.add_add_add_comm]
    rw [port,next] at drawn
    have here : call p (.assignNextFromBase basePort d) =
        ((p.assignNextFromBase basePort d).1,[.fromBase basePort (p.assignNextFromBase basePort d).2]) := rfl
    rw [List.map_cons,outputs_cons,here,drawn,List.map_cons,shares,moved,totals,List.map_cons]
    refine congrArg _ (ih {p with portResPortMap := Function.update p.portResPortMap basePort _} others
      simulated (used + step + 1) d.now ?_)
    exact Function.update_self _ _ _

/-- The stamp of a base that is given out, the old one where it was given out before. -/
def stampAt (p : PortManager) (basePort : UInt16) (now : UInt64) : UInt64 :=
  match p.portResPortMap basePort with
  | none => now
  | some data => data.timestampMs

theorem assignNext_stamped {fpu : FloatUnit} (p : PortManager) (d : Draw fpu) :
    (p.assignNext d).1.portResPortMap (p.assignNext d).2 =
      some ⟨(p.assignNext d).2 + .ofNat (0 + 1),p.stampAt (p.assignNext d).2 d.now⟩ := by
  have stored : (p.assignNext d).1.portResPortMap (p.assignNext d).2 =
      some (match p.portResPortMap (p.assignNext d).2 with
        | none => ⟨(p.assignNext d).2 + 1,d.now⟩
        | some data => ⟨(p.assignNext d).2 + 1,data.timestampMs⟩) := Function.update_self _ _ _
  rw [stored,stampAt]
  cases p.portResPortMap (p.assignNext d).2 <;> rfl

end PortManager

def InRange (base reserved port : UInt16) : Prop :=
  base ≤ port ∧ port.toNat < base.toNat + reserved.toNat

instance (base reserved port : UInt16) : Decidable (InRange base reserved port) :=
  inferInstanceAs (Decidable (_ ∧ _))

def StaysInRange (base reserved : UInt16) (log : List Assigned) : Prop :=
  ∀ assigned ∈ log, InRange base reserved assigned.port

instance (base reserved : UInt16) (log : List Assigned) : Decidable (StaysInRange base reserved log) :=
  inferInstanceAs (Decidable (∀ assigned ∈ log, _))

theorem inRange_repaired (base reserved minPort : UInt16) (n : Nat) (least : minPort ≤ base)
    (room : base.toNat + reserved.toNat ≤ 65536) :
    InRange base reserved (repaired minPort (base + .ofNat n)) ↔ n < reserved.toNat ∨
      (65536 ≤ base.toNat + n ∧ InRange base reserved (repaired minPort (base + .ofNat n))) := by
  have low : minPort.toNat ≤ base.toNat := least
  by_cases wraps : 65536 ≤ base.toNat + n
  · simp only [wraps,true_and]
    exact ⟨Or.inr,fun either => either.elim (fun few => absurd few (by omega)) id⟩
  · have value : (base + .ofNat n).toNat = base.toNat + n := by
      rw [UInt16.toNat_add,UInt16.toNat_ofNat']
      omega
    have above : ¬base + .ofNat n < minPort := by
      rw [UInt16.lt_iff_toNat_lt,value]
      omega
    simp only [wraps,false_and,or_false,InRange,repaired,if_neg above,UInt16.le_iff_toNat_le,value]
    omega

/-- The draws of an attempt stay in the range of its base exactly if no running total of
ports and shares exceeds the range without wrapping into it again; without a wrap, if the
shares leave two of the simulated ports over. -/
theorem attempt_inRange_iff (p : PortManager) (first : Draw .exact) (draws : List (Draw .exact))
    (ones : ∀ d ∈ draws, d.rndVal = (1 : ℚ)) (count : draws.length = 51)
    (positive : 1 ≤ p.simulatedNormalAllocsPerSecond)
    (range : p.reservedPortRangePerAlloc.toNat = 5 * p.simulatedNormalAllocsPerSecond.toNat + 50)
    (room : (p.assignNext first).2.toNat + p.reservedPortRangePerAlloc.toNat ≤ 65536) :
    let base := (p.assignNext first).2
    let moved := shares p.simulatedNormalAllocsPerSecond (p.stampAt base first.now) (draws.map Draw.now)
    let stays := StaysInRange base p.reservedPortRangePerAlloc
      (outputs PortManager.call (p.assignNext first).1 (draws.map (.assignNextFromBase base)))
    (stays ↔ ∀ n ∈ totals 0 moved, n < p.reservedPortRangePerAlloc.toNat ∨ (65536 ≤ base.toNat + n ∧
      InRange base p.reservedPortRangePerAlloc (repaired p.minPort (base + .ofNat n)))) ∧
    (base.toNat + 51 + moved.sum < 65536 →
      (stays ↔ moved.sum + 2 ≤ 5 * p.simulatedNormalAllocsPerSecond.toNat)) := by
  intro base moved stays
  have simulated : p.simulatedNormalAllocsPerSecond ≠ 0 := by
    rintro none
    rw [none] at positive
    exact absurd positive (by decide)
  have log : outputs PortManager.call (p.assignNext first).1 (draws.map (.assignNextFromBase base)) =
      (totals 0 moved).map fun n => .fromBase base (repaired p.minPort (base + .ofNat n)) :=
    PortManager.outputs_totals (p.assignNext first).1 base draws ones simulated 0 _ (p.assignNext_stamped first)
  have exact_totals : stays ↔ ∀ n ∈ totals 0 moved, n < p.reservedPortRangePerAlloc.toNat ∨
      (65536 ≤ base.toNat + n ∧
        InRange base p.reservedPortRangePerAlloc (repaired p.minPort (base + .ofNat n))) := by
    simp only [stays,StaysInRange,log,List.forall_mem_map]
    refine forall₂_congr fun n _ => ?_
    exact inRange_repaired base _ p.minPort n (p.assignNext_minPort_le first) room
  refine ⟨exact_totals,fun unwrapped => ?_⟩
  have length : moved.length = 51 := by rw [shares_length,List.length_map,count]
  have some_draw : moved ≠ [] := by
    intro none
    rw [none] at length
    exact absurd length (by decide)
  rw [exact_totals]
  constructor
  · intro all
    rcases all _ (last_mem_totals 0 moved some_draw) with few | ⟨wraps,_⟩
    · omega
    · omega
  · intro few n member
    have most := totals_le 0 moved n member
    exact Or.inl (by omega)

def oneSimulated : PortManager := ⟨fun _ => none,6000,1,55,5000⟩

def drawAt (now : UInt64) : Draw .exact := ⟨now,(1 : ℚ),true⟩

theorem attempt_inRange_atOnce :
    StaysInRange 6000 55 (outputs PortManager.call (oneSimulated.assignNext (drawAt 0)).1
      ((List.replicate 51 (drawAt 0)).map (.assignNextFromBase 6000))) := by
  have both := attempt_inRange_iff oneSimulated (drawAt 0) (List.replicate 51 (drawAt 0))
    (fun d member => List.eq_of_mem_replicate member ▸ rfl) List.length_replicate (by decide) (by decide)
    (by decide)
  exact (both.2 (by decide +kernel)).mpr (by decide +kernel)

/-- All draws five seconds after the base: the last is port 6056 of a range that ends at 6054. -/
theorem late_not_inRange :
    ¬StaysInRange 6000 55 (outputs PortManager.call (oneSimulated.assignNext (drawAt 0)).1
      ((List.replicate 51 (drawAt 5000)).map (.assignNextFromBase 6000))) := by
  decide +kernel

end P2pStun
