import P2pStun.P2pPsConnector
import Mathlib.Data.Rat.Floor
import Mathlib.Tactic.FieldSimp
import Mathlib.Tactic.Linarith
import Mathlib.Tactic.Positivity

/-! Where the predicted port lies. The distance of the two ports is kept in an unsigned
variable, so a falling sequence is extrapolated as a rising one of almost 65536 ports
a step, and nothing bounds the extrapolation at the top of the port space. -/
namespace P2pStun

/-- Ports that are close together; both bounds are computed in `int`. -/
def Sequential (firstPort secondPort : UInt16) : Prop :=
  (firstPort.toNat : Int) + 250 > secondPort.toNat ∧ (firstPort.toNat : Int) - 250 < secondPort.toNat

instance (firstPort secondPort : UInt16) : Decidable (Sequential firstPort secondPort) :=
  inferInstanceAs (Decidable (_ ∧ _))

def predicted (fpu : FloatUnit) (firstPort secondPort : UInt16) (t1 t2 : UInt64) (scanRange : UInt32)
    (timeNow : UInt64) : fpu.Float :=
  let distance := secondPort - firstPort
  let parts := fpu.div (fpu.ofNat (timeNow - t2 + 100).toNat)
    (fpu.ofNat (timediffPortAllocation t1 t2).toNat)
  let moved := fpu.add (fpu.ofNat secondPort.toNat) (fpu.mul parts (fpu.ofNat distance.toNat))
  if distance > 0 then fpu.add moved (fpu.ofNat (scanRange / 2).toNat)
  else fpu.sub moved (fpu.ofNat (scanRange / 2).toNat)

section

variable (fpu : FloatUnit) (p1 p2 : UInt16) (t1 t2 : UInt64) (scanRange : UInt32) (now : UInt64)

theorem determineTargetPort_eq :
    determineTargetPort fpu p1 p2 t1 t2 scanRange now =
      if p1 = p2 then p1
      else if Sequential p1 p2 then fpu.toUInt16 (predicted fpu p1 p2 t1 t2 scanRange now) else 0 := by
  simp only [determineTargetPort,predicted,Sequential,apply_ite fpu.toUInt16]

theorem distance_pos (apart : p1 ≠ p2) : p2 - p1 > 0 := by
  have different : p2 - p1 ≠ 0 := by
    intro same
    exact apart (by grind)
  exact UInt16.pos_iff_ne_zero.mpr different

theorem predicted_eq (apart : p1 ≠ p2) :
    predicted fpu p1 p2 t1 t2 scanRange now =
      fpu.add (fpu.add (fpu.ofNat p2.toNat) (fpu.mul (fpu.div (fpu.ofNat (now - t2 + 100).toNat)
        (fpu.ofNat (timediffPortAllocation t1 t2).toNat)) (fpu.ofNat (p2 - p1).toNat)))
        (fpu.ofNat (scanRange / 2).toNat) := by
  simp only [predicted,distance_pos p1 p2 apart,if_true]

end

section PortSpace

variable (p1 p2 : UInt16) (t1 t2 now : UInt64)

def converted : ℚ := predicted .exact p1 p2 t1 t2 scanRange now

/-- Ports that are equal give the first one, ports far apart zero, and the value
converted for the others is a port. -/
def InPortSpace : Prop :=
  let result := determineTargetPort .exact p1 p2 t1 t2 scanRange now
  (p1 = p2 ∧ result = p1) ∨ (¬Sequential p1 p2 ∧ result = 0) ∨
    (p1 ≠ p2 ∧ Sequential p1 p2 ∧
      result = FloatUnit.exact.toUInt16 (converted p1 p2 t1 t2 now) ∧
      1 ≤ converted p1 p2 t1 t2 now ∧ converted p1 p2 t1 t2 now ≤ 65535)

/-- The way from the second port, in the unsigned arithmetic of the source, leaves room
for half the scanned range. -/
def LeavesRoom : Prop :=
  ((now - t2 + 100).toNat : Int) * (p2 - p1).toNat ≤
    (65510 - p2.toNat) * (timediffPortAllocation t1 t2).toNat

instance : Decidable (LeavesRoom p1 p2 t1 t2 now) := inferInstanceAs (Decidable (_ ≤ _))

theorem converted_eq (apart : p1 ≠ p2) :
    converted p1 p2 t1 t2 now =
      (p2.toNat + (now - t2 + 100).toNat / (timediffPortAllocation t1 t2).toNat * (p2 - p1).toNat + 25 : ℚ) := by
  rw [converted,predicted_eq _ _ _ _ _ _ _ apart]
  rfl

theorem timediff_pos (order : t1 ≤ t2) (recent : t2.toNat ≤ t1.toNat + 30000) :
    0 < (timediffPortAllocation t1 t2).toNat := by
  rw [timediffPortAllocation,UInt64.toNat_add,UInt64.toNat_sub_of_le _ _ order]
  have one : (1 : UInt64).toNat = 1 := rfl
  rw [one]
  omega

theorem converted_le_iff (apart : p1 ≠ p2) (positive : 0 < (timediffPortAllocation t1 t2).toNat) :
    converted p1 p2 t1 t2 now ≤ 65535 ↔ LeavesRoom p1 p2 t1 t2 now := by
  have width : (0 : ℚ) < (timediffPortAllocation t1 t2).toNat := by exact_mod_cast positive
  have moved (x y : ℚ) : x + y + 25 ≤ 65535 ↔ y ≤ 65510 - x := by
    constructor <;> intro le <;> linarith
  rw [converted_eq _ _ _ _ _ apart,LeavesRoom,moved,div_mul_eq_mul_div,div_le_iff₀ width,
    ← Int.cast_le (R := ℚ)]
  push_cast
  rfl

theorem one_le_converted (apart : p1 ≠ p2) : 1 ≤ converted p1 p2 t1 t2 now := by
  rw [converted_eq _ _ _ _ _ apart]
  have way : (0 : ℚ) ≤ (now - t2 + 100).toNat / (timediffPortAllocation t1 t2).toNat * (p2 - p1).toNat := by
    positivity
  have start : (0 : ℚ) ≤ p2.toNat := Nat.cast_nonneg _
  linarith

/-- The predicted port stays in the port space exactly when the ports are equal or far
apart, or the extrapolation leaves room above the second port. -/
theorem inPortSpace_iff (order : t1 ≤ t2) (recent : t2.toNat ≤ t1.toNat + 30000) :
    InPortSpace p1 p2 t1 t2 now ↔ p1 = p2 ∨ ¬Sequential p1 p2 ∨ LeavesRoom p1 p2 t1 t2 now := by
  have positive := timediff_pos t1 t2 order recent
  have result := determineTargetPort_eq .exact p1 p2 t1 t2 scanRange now
  by_cases same : p1 = p2
  · rw [if_pos same] at result
    exact iff_of_true (Or.inl ⟨same,result⟩) (Or.inl same)
  rw [if_neg same] at result
  by_cases near : Sequential p1 p2
  · rw [if_pos near] at result
    have least := one_le_converted p1 p2 t1 t2 now same
    have most := converted_le_iff p1 p2 t1 t2 now same positive
    constructor
    · rintro (⟨equal,_⟩ | ⟨far,_⟩ | ⟨_,_,_,_,below⟩)
      · exact absurd equal same
      · exact absurd near far
      · exact Or.inr (Or.inr (most.mp below))
    · rintro (equal | far | room)
      · exact absurd equal same
      · exact absurd near far
      · exact Or.inr (Or.inr ⟨same,near,result,least,most.mpr room⟩)
  · rw [if_neg near] at result
    exact iff_of_true (Or.inr (Or.inl ⟨near,result⟩)) (Or.inr (Or.inl near))

theorem inPortSpace_rising : LeavesRoom 3000 3002 0 1000 1500 ∧ InPortSpace 3000 3002 0 1000 1500 :=
  ⟨by decide,(inPortSpace_iff 3000 3002 0 1000 1500 (by decide) (by decide)).mpr
    (Or.inr (Or.inr (by decide)))⟩

theorem falling_not_inPortSpace : ¬InPortSpace 2001 2000 0 1000 2000 := by
  have apart : (2001 : UInt16) ≠ 2000 := by decide
  rintro (⟨same,_⟩ | ⟨far,_⟩ | ⟨_,_,_,_,most⟩)
  · exact apart same
  · exact far (by decide)
  · exact absurd ((converted_le_iff 2001 2000 0 1000 2000 apart (by decide)).mp most) (by decide)

end PortSpace

section Direction

/-- Exact arithmetic that leaves open what the language leaves undefined: a division by
zero and a conversion out of range. -/
def FloatUnit.exactWith (byZero : ℚ → ℚ) (outOfRange : ℚ → UInt16) : FloatUnit where
  Float := ℚ
  ofNat n := n
  add := (· + ·)
  sub := (· - ·)
  mul := (· * ·)
  div x y := if y = 0 then byZero x else x / y
  positive x := decide (0 < x)
  toUInt16 x := if -1 < x ∧ x < 65536 then .ofInt (x.num.tdiv x.den) else outOfRange x

variable (p1 p2 : UInt16) (t1 t2 now : UInt64)

def extrapolated : ℚ :=
  ((now.toNat : ℚ) - t2.toNat + 100) * ((p2.toNat : ℚ) - p1.toNat) / ((t2.toNat : ℚ) - t1.toNat + 1)

def predictedPoint : ℚ :=
  if p1 < p2 then p2.toNat + extrapolated p1 p2 t1 t2 now + 25
  else p2.toNat + extrapolated p1 p2 t1 t2 now - 25

/-- The result is the integer part of the point, whatever undefined operations give. -/
def Follows : Prop :=
  ∀ byZero outOfRange,
    ((determineTargetPort (.exactWith byZero outOfRange) p1 p2 t1 t2 scanRange now).toNat : ℤ) =
      ⌊predictedPoint p1 p2 t1 t2 now⌋

theorem exactWith_toUInt16 (byZero : ℚ → ℚ) (outOfRange : ℚ → UInt16) (x : ℚ) (least : 0 ≤ x)
    (most : x < 65536) : (((FloatUnit.exactWith byZero outOfRange).toUInt16 x).toNat : ℤ) = ⌊x⌋ := by
  have inside : -1 < x ∧ x < 65536 := ⟨by linarith,most⟩
  have floor : x.num.tdiv x.den = ⌊x⌋ := by
    rw [Int.tdiv_eq_ediv_of_nonneg (Rat.num_nonneg.mpr least),Rat.floor_def']
  have lower : 0 ≤ ⌊x⌋ := Int.floor_nonneg.mpr least
  have upper : ⌊x⌋ < 65536 := Int.floor_lt.mpr (by exact_mod_cast most)
  simp only [FloatUnit.exactWith,if_pos inside,floor,UInt16.ofInt,UInt16.toNat_ofNat']
  omega

theorem sequential_of_near (near : |(p2.toNat : ℤ) - p1.toNat| < 250) : Sequential p1 p2 := by
  obtain ⟨lower,upper⟩ := abs_lt.mp near
  constructor <;> omega

/-- The quotient of the source, whose divisor is zero when the difference of the server's
times fills the width. -/
def partsSince (byZero : ℚ → ℚ) : ℚ :=
  if ((timediffPortAllocation t1 t2).toNat : ℚ) = 0 then byZero (now - t2 + 100).toNat
  else (now - t2 + 100).toNat / (timediffPortAllocation t1 t2).toNat

def reached (byZero : ℚ → ℚ) : ℚ :=
  p2.toNat + partsSince t1 t2 now byZero * (p2 - p1).toNat + 25

theorem determineTargetPort_exactWith (byZero : ℚ → ℚ) (outOfRange : ℚ → UInt16)
    (apart : p1 ≠ p2) (near : |(p2.toNat : ℤ) - p1.toNat| < 250) :
    determineTargetPort (.exactWith byZero outOfRange) p1 p2 t1 t2 scanRange now =
      (FloatUnit.exactWith byZero outOfRange).toUInt16 (reached p1 p2 t1 t2 now byZero) := by
  rw [determineTargetPort_eq,if_neg apart,if_pos (sequential_of_near p1 p2 near),
    predicted_eq _ _ _ _ _ _ _ apart]
  rfl

theorem partsSince_zero : 0 ≤ partsSince t1 t2 now (fun _ => 0) := by
  rw [partsSince]
  split
  · exact le_rfl
  · positivity

theorem not_follows_of_falling (falling : p2 < p1) (near : |(p2.toNat : ℤ) - p1.toNat| < 250)
    (order : t1 ≤ t2) (later : t2 ≤ now) : ¬Follows p1 p2 t1 t2 now := by
  intro follows
  have apart : p1 ≠ p2 := (UInt16.ne_of_lt falling).symm
  have result := follows (fun _ => 0) (fun _ => p2)
  rw [determineTargetPort_exactWith _ _ _ _ _ _ _ apart near] at result
  have start : (p2.toNat : ℚ) ≤ reached p1 p2 t1 t2 now (fun _ => 0) := by
    have parts := partsSince_zero t1 t2 now
    have way : 0 ≤ partsSince t1 t2 now (fun _ => 0) * ((p2 - p1).toNat : ℚ) := by positivity
    rw [reached]
    linarith
  have step : (p2.toNat : ℚ) - p1.toNat ≤ 0 := by
    have lower : p2.toNat ≤ p1.toNat := Nat.le_of_lt falling
    have cast : (p2.toNat : ℚ) ≤ p1.toNat := by exact_mod_cast lower
    linarith
  have point : ⌊predictedPoint p1 p2 t1 t2 now⌋ < p2.toNat := by
    have early : (t1.toNat : ℚ) ≤ t2.toNat := by exact_mod_cast order
    have late : (t2.toNat : ℚ) ≤ now.toNat := by exact_mod_cast later
    have back : extrapolated p1 p2 t1 t2 now ≤ 0 :=
      div_nonpos_of_nonpos_of_nonneg (mul_nonpos_of_nonneg_of_nonpos (by linarith) step) (by linarith)
    rw [Int.floor_lt,predictedPoint,if_neg (UInt16.not_lt.mpr (UInt16.le_of_lt falling))]
    push_cast
    linarith
  rcases lt_or_ge (reached p1 p2 t1 t2 now (fun _ => 0)) 65536 with inside | outside
  · rw [exactWith_toUInt16 _ _ _ (le_trans (Nat.cast_nonneg _) start) inside] at result
    have above : (p2.toNat : ℤ) ≤ ⌊reached p1 p2 t1 t2 now (fun _ => 0)⌋ := Int.le_floor.mpr (by exact_mod_cast start)
    omega
  · simp only [FloatUnit.exactWith,not_lt.mpr outside,and_false,if_false] at result
    omega

theorem step_of_rising (rising : p1 < p2) : ((p2 - p1).toNat : ℚ) = p2.toNat - p1.toNat := by
  rw [UInt16.toNat_sub_of_le _ _ (UInt16.le_of_lt rising)]
  exact Nat.cast_sub (Nat.le_of_lt rising)

theorem one_le_step (rising : p1 < p2) : (1 : ℚ) ≤ (p2.toNat : ℚ) - p1.toNat := by
  have above : p1.toNat + 1 ≤ p2.toNat := rising
  have cast : (p1.toNat : ℚ) + 1 ≤ p2.toNat := by exact_mod_cast above
  linarith

theorem timediff_exact (order : t1 ≤ t2) (counted : t2 - t1 + 1 ≠ 0) :
    (timediffPortAllocation t1 t2).toNat = t2.toNat - t1.toNat + 1 := by
  have bound := t2.toNat_lt
  have filled : ¬t2.toNat - t1.toNat + 1 = 2 ^ 64 := by
    intro full
    refine counted (UInt64.toNat_inj.mp ?_)
    rw [UInt64.toNat_add,UInt64.toNat_sub_of_le _ _ order]
    show (t2.toNat - t1.toNat + 1) % 2 ^ 64 = 0
    rw [full,Nat.mod_self]
  rw [timediffPortAllocation,UInt64.toNat_add,UInt64.toNat_sub_of_le _ _ order]
  show (t2.toNat - t1.toNat + 1) % 2 ^ 64 = _
  omega

theorem sum_exact (rising : p1 < p2) (order : t1 ≤ t2) (later : t2 ≤ now)
    (most : predictedPoint p1 p2 t1 t2 now ≤ 65535) :
    (now - t2 + 100).toNat = now.toNat - t2.toNat + 100 := by
  have early : t1.toNat ≤ t2.toNat := order
  have late : t2.toNat ≤ now.toNat := later
  have bound := now.toNat_lt
  have unwrapped : now.toNat - t2.toNat + 100 < 2 ^ 64 := by
    by_contra wraps
    have clock : (2 ^ 64 : ℚ) ≤ now.toNat - t2.toNat + 100 := by
      have sum : 2 ^ 64 + t2.toNat ≤ now.toNat + 100 := by omega
      have cast : (2 ^ 64 : ℚ) + t2.toNat ≤ now.toNat + 100 := by exact_mod_cast sum
      linarith
    have server : (t2.toNat : ℚ) ≤ 99 := by
      have small : t2.toNat ≤ 99 := by omega
      exact_mod_cast small
    have since : (t1.toNat : ℚ) ≤ t2.toNat := by exact_mod_cast early
    have origin : (0 : ℚ) ≤ t1.toNat := Nat.cast_nonneg _
    have start : (0 : ℚ) ≤ p2.toNat := Nat.cast_nonneg _
    have step := one_le_step p1 p2 rising
    have width : (0 : ℚ) < t2.toNat - t1.toNat + 1 := by linarith
    have way : 2 ^ 64 / 100 ≤ extrapolated p1 p2 t1 t2 now := by
      rw [extrapolated,le_div_iff₀ width]
      have product : (2 ^ 64 : ℚ) * 1 ≤ (now.toNat - t2.toNat + 100) * (p2.toNat - p1.toNat) :=
        mul_le_mul clock step (by norm_num) (by linarith)
      linarith
    rw [predictedPoint,if_pos rising] at most
    linarith
  rw [UInt64.toNat_add,UInt64.toNat_sub_of_le _ _ later]
  show (now.toNat - t2.toNat + 100) % 2 ^ 64 = _
  omega

theorem reached_of_rising (byZero : ℚ → ℚ) (rising : p1 < p2) (order : t1 ≤ t2) (later : t2 ≤ now)
    (counted : t2 - t1 + 1 ≠ 0) (most : predictedPoint p1 p2 t1 t2 now ≤ 65535) :
    reached p1 p2 t1 t2 now byZero = predictedPoint p1 p2 t1 t2 now := by
  have sum : ((now - t2 + 100).toNat : ℚ) = now.toNat - t2.toNat + 100 := by
    rw [sum_exact p1 p2 t1 t2 now rising order later most,Nat.cast_add,
      Nat.cast_sub (UInt64.le_iff_toNat_le.mp later)]
    rfl
  have width : ((timediffPortAllocation t1 t2).toNat : ℚ) = t2.toNat - t1.toNat + 1 := by
    rw [timediff_exact t1 t2 order counted,Nat.cast_add,Nat.cast_sub (UInt64.le_iff_toNat_le.mp order)]
    rfl
  have nonzero : (t2.toNat : ℚ) - t1.toNat + 1 ≠ 0 := by
    have early : (t1.toNat : ℚ) ≤ t2.toNat := by exact_mod_cast order
    linarith
  rw [reached,partsSince,predictedPoint,if_pos rising,sum,width,if_neg nonzero,
    step_of_rising p1 p2 rising,extrapolated,div_mul_eq_mul_div]

theorem not_follows_of_uncounted (rising : p1 < p2) (near : |(p2.toNat : ℤ) - p1.toNat| < 250)
    (uncounted : t2 - t1 + 1 = 0) (least : 1 ≤ predictedPoint p1 p2 t1 t2 now) :
    ¬Follows p1 p2 t1 t2 now := by
  intro follows
  have result := follows (fun _ => 65536) (fun _ => 0)
  have outside : 65536 ≤ reached p1 p2 t1 t2 now (fun _ => 65536) := by
    have step := one_le_step p1 p2 rising
    have start : (0 : ℚ) ≤ p2.toNat := Nat.cast_nonneg _
    rw [reached,partsSince,timediffPortAllocation,uncounted,step_of_rising p1 p2 rising,
      if_pos (by rfl)]
    linarith
  rw [determineTargetPort_exactWith _ _ _ _ _ _ _ (UInt16.ne_of_lt rising) near] at result
  simp only [FloatUnit.exactWith,not_lt.mpr outside,and_false,if_false] at result
  have positive : 1 ≤ ⌊predictedPoint p1 p2 t1 t2 now⌋ := Int.le_floor.mpr (by exact_mod_cast least)
  rw [← result] at positive
  exact absurd positive (by decide)

/-- The prediction follows the direction of the ports exactly when they rise: a falling
sequence never is extrapolated downwards. -/
theorem follows_iff (apart : p1 ≠ p2) (near : |(p2.toNat : ℤ) - p1.toNat| < 250) (order : t1 ≤ t2)
    (later : t2 ≤ now) (least : 1 ≤ predictedPoint p1 p2 t1 t2 now)
    (most : predictedPoint p1 p2 t1 t2 now ≤ 65535) :
    Follows p1 p2 t1 t2 now ↔ p1 < p2 ∧ t2 - t1 + 1 ≠ 0 := by
  constructor
  · intro follows
    have rising : p1 < p2 := by
      rcases UInt16.lt_or_lt_of_ne apart with rising | falling
      · exact rising
      · exact absurd follows (not_follows_of_falling p1 p2 t1 t2 now falling near order later)
    exact ⟨rising,fun uncounted =>
      not_follows_of_uncounted p1 p2 t1 t2 now rising near uncounted least follows⟩
  · rintro ⟨rising,counted⟩ byZero outOfRange
    have value := reached_of_rising p1 p2 t1 t2 now byZero rising order later counted most
    rw [determineTargetPort_exactWith _ _ _ _ _ _ _ apart near,value]
    exact exactWith_toUInt16 _ _ _ (by linarith) (by linarith)

theorem follows_rising : Follows 3000 3002 0 1000 1500 :=
  (follows_iff 3000 3002 0 1000 1500 (by decide) (by decide) (by decide) (by decide)
    (by decide +kernel) (by decide +kernel)).mpr ⟨by decide,by decide⟩

/-- Ports falling by one a second are predicted 6571 above the second one, not 26 below it. -/
theorem falling_not_follows :
    (1 ≤ predictedPoint 2001 2000 0 1000 1000 ∧ predictedPoint 2001 2000 0 1000 1000 ≤ 65535) ∧
      ⌊predictedPoint 2001 2000 0 1000 1000⌋ = 1974 ∧
      determineTargetPort .exact 2001 2000 0 1000 scanRange 1000 = 8571 ∧
      ¬Follows 2001 2000 0 1000 1000 :=
  ⟨⟨by decide +kernel,by decide +kernel⟩,by decide +kernel,by decide +kernel,
    not_follows_of_falling 2001 2000 0 1000 1000 (by decide) (by decide) (by decide) (by decide)⟩

end Direction

end P2pStun
