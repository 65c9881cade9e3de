import Mathlib.Logic.Function.Basic
import Mathlib.Tactic.SplitIfs

/-! Partial matchings of a type, which grow by joining two free elements. -/
namespace P2pStun

structure Matching (ι : Type) where
  partner : ι → Option ι
  symmetric : ∀ i j, partner i = some j → partner j = some i
  irreflexive : ∀ i, partner i ≠ some i

namespace Matching

variable {ι : Type} {m m' : Matching ι} {i j k : ι}

def empty : Matching ι := ⟨fun _ => none,nofun,nofun⟩

instance : LE (Matching ι) := ⟨fun m m' => ∀ i j, m.partner i = some j → m'.partner i = some j⟩

theorem le_rfl (m : Matching ι) : m ≤ m := fun _ _ joined => joined

variable [DecidableEq ι]

def join (m : Matching ι) (i j : ι) (apart : i ≠ j) (left : m.partner i = none)
    (right : m.partner j = none) : Matching ι where
  partner := Function.update (Function.update m.partner i (some j)) j (some i)
  symmetric := by
    intro a b
    have other := m.symmetric a b
    have free := m.symmetric b a
    simp only [Function.update_apply]
    split_ifs <;> grind
  irreflexive := by
    intro a
    have other := m.irreflexive a
    simp only [Function.update_apply]
    split_ifs <;> grind

variable (apart : i ≠ j) (left : m.partner i = none) (right : m.partner j = none)

theorem join_left : (m.join i j apart left right).partner i = some j := by
  simp [join,apart]

theorem join_right : (m.join i j apart left right).partner j = some i := by
  simp [join]

theorem join_other (first : k ≠ i) (second : k ≠ j) :
    (m.join i j apart left right).partner k = m.partner k := by
  simp [join,first,second]

theorem le_join : m ≤ m.join i j apart left right := by
  intro a b joined
  have first : a ≠ i := by
    rintro rfl
    simp [left] at joined
  have second : a ≠ j := by
    rintro rfl
    simp [right] at joined
  rw [join_other apart left right first second]
  exact joined

end Matching

end P2pStun
