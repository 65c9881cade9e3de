import P2pStun.Runs
import Mathlib.Data.Finset.Basic
import Mathlib.Tactic.Tauto

/-! Descriptors of one process, shared by a part of it that is looked at and by all
the others. The kernel gives out only numbers that are not open; a close takes effect
on the number, whoever holds it. -/
namespace P2pStun.Descriptors
open Runs

inductive HandleEvent (H : Type)
  | opened (handle : H) | used (handle : H) | closed (handle : H)
deriving DecidableEq

inductive Step (H : Type)
  | own (event : HandleEvent H) | other (event : HandleEvent H)

structure Table (H : Type) where
  own : Finset H
  others : Finset H

variable {H : Type} [DecidableEq H]

def ownEvent : Step H → Option (HandleEvent H)
  | .own event => some event
  | .other _ => none

def table : Machine (Table H) (Step H) Unit := fun t step =>
  match step with
  | .own (.opened handle) => ({t with own := insert handle t.own},[])
  | .other (.opened handle) => ({t with others := insert handle t.others},[])
  | .own (.closed handle) | .other (.closed handle) =>
    (⟨t.own.erase handle,t.others.erase handle⟩,[])
  | .own (.used _) | .other (.used _) => (t,[])

/-- What the kernel and the others keep to. -/
def Granted (t : Table H) : Step H → Prop
  | .own (.opened handle) | .other (.opened handle) => handle ∉ t.own ∧ handle ∉ t.others
  | .other (.used handle) | .other (.closed handle) => handle ∈ t.others
  | .own _ => True

/-- A descriptor is used and closed by the part that holds it. -/
def Proper (t : Table H) : Step H → Prop
  | .own (.used handle) | .own (.closed handle) => handle ∈ t.own
  | _ => True

def holding : Machine (Finset H) (HandleEvent H) Unit := fun held event =>
  match event with
  | .opened handle => (insert handle held,[])
  | .used _ => (held,[])
  | .closed handle => (held.erase handle,[])

def Fresh (held : Finset H) : HandleEvent H → Prop
  | .opened handle => handle ∉ held
  | _ => True

def Held (held : Finset H) : HandleEvent H → Prop
  | .opened _ => True
  | .used handle | .closed handle => handle ∈ held

instance (t : Table H) : (step : Step H) → Decidable (Granted t step)
  | .own (.opened _) | .other (.opened _) => inferInstanceAs (Decidable (_ ∧ _))
  | .other (.used _) | .other (.closed _) => inferInstanceAs (Decidable (_ ∈ _))
  | .own (.used _) | .own (.closed _) => inferInstanceAs (Decidable True)

instance (t : Table H) : (step : Step H) → Decidable (Proper t step)
  | .own (.used _) | .own (.closed _) => inferInstanceAs (Decidable (_ ∈ _))
  | .own (.opened _) | .other _ => inferInstanceAs (Decidable True)

/-- What the part holds, and whether it keeps to it, depends on its own events only. -/
theorem along_own (t : Table H) (steps : List (Step H)) (apart : Disjoint t.own t.others)
    (granted : Along table Granted t steps) :
    (run table t steps).own = run holding t.own (steps.filterMap ownEvent) ∧
      Disjoint (run table t steps).own (run table t steps).others ∧
      Along holding Fresh t.own (steps.filterMap ownEvent) ∧
      (Along table Proper t steps ↔ Along holding Held t.own (steps.filterMap ownEvent)) := by
  induction steps generalizing t with
  | nil => exact ⟨rfl,apart,trivial,Iff.rfl⟩
  | cons step steps ih =>
    obtain ⟨now,later⟩ := granted
    rcases step with (handle | handle | handle) | (handle | handle | handle)
    · have next := ih _ (Finset.disjoint_insert_left.mpr ⟨now.2,apart⟩) later
      exact ⟨next.1,next.2.1,⟨now.1,next.2.2.1⟩,and_congr Iff.rfl next.2.2.2⟩
    · have next := ih _ apart later
      exact ⟨next.1,next.2.1,⟨trivial,next.2.2.1⟩,and_congr Iff.rfl next.2.2.2⟩
    · have next := ih _ (apart.mono (Finset.erase_subset _ _) (Finset.erase_subset _ _)) later
      exact ⟨next.1,next.2.1,⟨trivial,next.2.2.1⟩,and_congr Iff.rfl next.2.2.2⟩
    · have next := ih _ (Finset.disjoint_insert_right.mpr ⟨now.1,apart⟩) later
      exact ⟨next.1,next.2.1,next.2.2.1,(iff_of_eq (true_and _)).trans next.2.2.2⟩
    · have next := ih _ apart later
      exact ⟨next.1,next.2.1,next.2.2.1,(iff_of_eq (true_and _)).trans next.2.2.2⟩
    · have next := ih _ (apart.mono (Finset.erase_subset _ _) (Finset.erase_subset _ _)) later
      have kept : t.own.erase handle = t.own :=
        Finset.erase_eq_of_notMem (Finset.disjoint_right.mp apart now)
      simp only [table,kept] at next
      simp only [List.filterMap_cons,ownEvent,run_cons,table,along_cons,Proper,true_and,kept]
      exact next

theorem run_used (held : Finset H) (handles : List H) :
    run holding held (handles.map .used) = held := by
  induction handles with
  | nil => rfl
  | cons handle handles ih => exact ih

theorem along_used (held : Finset H) (handles : List H) (members : ∀ handle ∈ handles, handle ∈ held) :
    Along holding Held held (handles.map .used) := by
  induction handles with
  | nil => trivial
  | cons handle handles ih =>
    exact ⟨members handle (by simp),ih fun other member => members other (by simp [member])⟩

theorem run_closed (held : Finset H) (handles : List H) :
    run holding held (handles.map .closed) = held \ handles.toFinset := by
  induction handles generalizing held with
  | nil => simp
  | cons handle handles ih =>
    rw [List.map_cons,run_cons,ih,List.toFinset_cons,Finset.sdiff_insert]
    exact Finset.erase_sdiff_comm held handles.toFinset handle

theorem along_closed (held : Finset H) (handles : List H) :
    Along holding Held held (handles.map .closed) ↔
      handles.Nodup ∧ ∀ handle ∈ handles, handle ∈ held := by
  induction handles generalizing held with
  | nil => simp
  | cons handle handles ih =>
    have rest : (∀ other ∈ handles, other ∈ held.erase handle) ↔
        handle ∉ handles ∧ ∀ other ∈ handles, other ∈ held := by
      constructor
      · intro all
        refine ⟨fun member => ?_,fun other member => Finset.mem_of_mem_erase (all other member)⟩
        exact absurd rfl (Finset.ne_of_mem_erase (all handle member))
      · rintro ⟨absent,all⟩ other member
        have different : other ≠ handle := fun same => absent (same ▸ member)
        exact Finset.mem_erase.mpr ⟨different,all other member⟩
    rw [List.map_cons,along_cons,List.nodup_cons,List.forall_mem_cons]
    show handle ∈ held ∧ Along holding Held (held.erase handle) _ ↔ _
    rw [ih,rest]
    tauto

end P2pStun.Descriptors
