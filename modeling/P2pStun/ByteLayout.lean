import Mathlib.Algebra.BigOperators.Fin
import Mathlib.Logic.Equiv.Fin.Basic

/-! Objects of fixed size in memory, the fields inside them and the layouts of
values. A layout is a bijection between the values and the bytes that hold them,
so that a partly overwritten object is again a value. Words are little-endian. -/
namespace P2pStun.ByteLayout

abbrev Bytes (n : Nat) := Fin n → UInt8

variable {n k : Nat}

/-- Data copied to the start of an object; what does not fit is dropped and what
the data does not reach keeps its content. -/
def overwrite (b : Bytes n) (data : List UInt8) : Bytes n :=
  fun i => data.getD i.val (b i)

def slice (b : Bytes n) (off k : Nat) (fits : off + k ≤ n := by decide) : Bytes k :=
  fun i => b ⟨off + i.val,by omega⟩

def splice (b : Bytes n) (off : Nat) (v : Bytes k) : Bytes n :=
  fun i => if inside : off ≤ i.val ∧ i.val < off + k then v ⟨i.val - off,by omega⟩ else b i

theorem overwrite_getElem (b : Bytes n) (data : List UInt8) (i : Fin n)
    (bound : i.val < data.length) : overwrite b data i = data[i.val] := by
  simp [overwrite,bound]

theorem overwrite_beyond (b : Bytes n) (data : List UInt8) (i : Fin n)
    (beyond : data.length ≤ i.val) : overwrite b data i = b i := by
  simp [overwrite,beyond]

@[simp] theorem overwrite_nil (b : Bytes n) : overwrite b [] = b := rfl

theorem overwrite_take (b : Bytes n) (data : List UInt8) :
    overwrite b (data.take n) = overwrite b data := by
  funext i
  simp [overwrite,i.isLt]

@[simp] theorem overwrite_ofFn (b v : Bytes n) : overwrite b (List.ofFn v) = v := by
  funext i
  rw [overwrite_getElem b _ i (by simp)]
  simp

/-- A prefix of an object written over another one leaves it unchanged exactly
when the two agree on that prefix. -/
theorem overwrite_take_eq_iff (b v : Bytes n) (len : Nat) :
    overwrite b ((List.ofFn v).take len) = b ↔ ∀ i : Fin n, i.val < len → v i = b i := by
  constructor
  · intro same i reached
    have bound : i.val < ((List.ofFn v).take len).length := by simp [reached]
    have written := overwrite_getElem b _ i bound
    rw [same] at written
    simpa using written.symm
  · intro agree
    funext i
    by_cases reached : i.val < len
    · rw [overwrite_getElem b _ i (by simp [reached])]
      simpa using agree i reached
    · exact overwrite_beyond b _ i (by simp; omega)

theorem overwrite_take_full (b v : Bytes n) (len : Nat) (full : n ≤ len) :
    overwrite b ((List.ofFn v).take len) = v := by
  rw [List.take_of_length_le (by simpa using full),overwrite_ofFn]

@[simp] theorem slice_splice (b : Bytes n) (off : Nat) (v : Bytes k) (fits : off + k ≤ n) :
    slice (splice b off v) off k fits = v := by
  funext i
  have inside : off ≤ off + i.val ∧ off + i.val < off + k := by omega
  simp [slice,splice]

theorem splice_splice (b : Bytes n) (off : Nat) (v w : Bytes k) :
    splice (splice b off v) off w = splice b off w := by
  funext i
  by_cases inside : off ≤ i.val ∧ i.val < off + k <;> simp [splice,inside]

theorem slice_splice_disjoint (b : Bytes n) (off off' k' : Nat) (v : Bytes k) (fits : off' + k' ≤ n)
    (apart : off' + k' ≤ off ∨ off + k ≤ off') :
    slice (splice b off v) off' k' fits = slice b off' k' fits := by
  funext i
  have outside : ¬(off ≤ off' + i.val ∧ off' + i.val < off + k) := by omega
  simp only [slice,splice,outside,dite_false]

theorem splice_outside (b : Bytes n) (off : Nat) (v : Bytes k) (i : Fin n)
    (outside : i.val < off ∨ off + k ≤ i.val) : splice b off v i = b i := by
  have missed : ¬(off ≤ i.val ∧ i.val < off + k) := by omega
  simp only [splice,missed,dite_false]

theorem slice_overwrite (b c : Bytes n) (data : List UInt8) (off k : Nat) (fits : off + k ≤ n)
    (reached : off + k ≤ data.length) :
    slice (overwrite b data) off k fits = slice (overwrite c data) off k fits := by
  funext i
  have bound : off + i.val < data.length := by omega
  simp only [slice]
  rw [overwrite_getElem b data _ bound,overwrite_getElem c data _ bound]

def unsigned (n : Nat) : Fin (256^n) ≃ Bytes n :=
  finFunctionFinEquiv.symm.trans (Equiv.arrowCongr (Equiv.refl _)
    ⟨fun x => ⟨⟨x⟩⟩,fun x => x.toFin,fun _ => rfl,fun _ => rfl⟩)

def uint16 : UInt16 ≃ Bytes 2 :=
  Equiv.trans ⟨fun x => (x.toFin : Fin (2^16)),fun x => ⟨⟨x⟩⟩,fun _ => rfl,fun _ => rfl⟩ (unsigned 2)

def uint32 : UInt32 ≃ Bytes 4 :=
  Equiv.trans ⟨fun x => (x.toFin : Fin (2^32)),fun x => ⟨⟨x⟩⟩,fun _ => rfl,fun _ => rfl⟩ (unsigned 4)

def uint64 : UInt64 ≃ Bytes 8 :=
  Equiv.trans ⟨fun x => (x.toFin : Fin (2^64)),fun x => ⟨⟨x⟩⟩,fun _ => rfl,fun _ => rfl⟩ (unsigned 8)

def swapped {α : Type} (layout : α ≃ Bytes n) (x : α) : α :=
  layout.symm (layout x ∘ Fin.rev)

@[simp] theorem swapped_swapped {α : Type} (layout : α ≃ Bytes n) (x : α) :
    swapped layout (swapped layout x) = x := by
  have twice : (layout x ∘ Fin.rev) ∘ Fin.rev = layout x := by
    funext i
    simp
  simp [swapped,twice]

def fields {α β : Type} (first : α ≃ Bytes n) (second : β ≃ Bytes k) : α × β ≃ Bytes (n + k) :=
  (Equiv.prodCongr first second).trans (Fin.appendEquiv n k)

/-- A value after the first `len` bytes of another one were written over it. -/
def partly {α : Type} (layout : α ≃ Bytes n) (old new : α) (len : Nat) : α :=
  layout.symm (overwrite (layout old) ((List.ofFn (layout new)).take len))

theorem partly_full {α : Type} (layout : α ≃ Bytes n) (old new : α) (len : Nat) (full : n ≤ len) :
    partly layout old new len = new := by
  simp [partly,overwrite_take_full _ _ len full]

theorem partly_eq_iff {α : Type} (layout : α ≃ Bytes n) (old new : α) (len : Nat) :
    partly layout old new len = old ↔
      ∀ i : Fin n, i.val < len → layout new i = layout old i := by
  rw [partly,Equiv.symm_apply_eq,overwrite_take_eq_iff]

end P2pStun.ByteLayout
