import P2pStun.CStrings
import Mathlib.Algebra.BigOperators.Fin

/-! Numbers and addresses as the C library writes and reads them. What `decimal` and
`inetNtoa` write is read back by `strtoul`, `stoi` and `inetAton`. -/
namespace P2pStun.CStrings
open ByteLayout

def decimal (n : Nat) : List UInt8 := (Nat.toDigits 10 n).map Char.toUInt8

def digitValue (c : UInt8) : Nat :=
  if 48 ≤ c ∧ c ≤ 57 then c.toNat - 48
  else if 97 ≤ c ∧ c ≤ 102 then c.toNat - 87
  else if 65 ≤ c ∧ c ≤ 70 then c.toNat - 55
  else 16

def numeral (base : Nat) (digits : List UInt8) : Nat :=
  digits.foldl (fun n c => base * n + digitValue c) 0

/-- The number a text starts with, and what follows it. -/
def leading (base : Nat) (text : List UInt8) : Nat × List UInt8 :=
  (numeral base (text.takeWhile (digitValue · < base)),text.dropWhile (digitValue · < base))

/-- What is left of a text that starts with `0x` and a digit after these two characters. -/
def hexadecimal : List UInt8 → Option (List UInt8)
  | zero :: x :: digit :: rest =>
    if zero = '0'.toUInt8 ∧ (x = 'x'.toUInt8 ∨ x = 'X'.toUInt8) ∧ digitValue digit < 16 then
      some (digit :: rest)
    else none
  | _ => none

/-- A number in the notation of C, where the text starts with a digit. -/
def strtoul (text : List UInt8) : Nat × List UInt8 :=
  match hexadecimal text with
  | some digits => leading 16 digits
  | none => leading (if text.head? = some '0'.toUInt8 then 8 else 10) text

def isSpace (c : UInt8) : Bool := c = 32 || (9 ≤ c && c ≤ 13)

inductive StoiError
  | invalidArgument
  | outOfRange
deriving DecidableEq

def stoi (s : CString) : Except StoiError Int :=
  let text := s.bytes.dropWhile isSpace
  let negative := text.head? = some '-'.toUInt8
  let text := if negative ∨ text.head? = some '+'.toUInt8 then text.tail else text
  let digits := text.takeWhile (digitValue · < 10)
  if digits = [] then .error .invalidArgument
  else
    let value : Int := if negative then -numeral 10 digits else numeral 10 digits
    if -2 ^ 31 ≤ value ∧ value < 2 ^ 31 then .ok value else .error .outOfRange

/-- The numbers before the dots, of which there is room for so many, and the last one. -/
def inetParts (room : Nat) (text : List UInt8) : Option (List Nat × Nat) :=
  if text.head?.any (digitValue · < 10) then
    let (val,rest) := strtoul text
    if 2 ^ 32 ≤ val then none
    else if rest.head? = some '.'.toUInt8 then
      match room with
      | 0 => none
      | room + 1 =>
        if 255 < val then none
        else (inetParts room rest.tail).map fun (parts,last) => (val :: parts,last)
    else if rest.head?.all isSpace then some ([],val)
    else none
  else none

/-- Each number before a dot is a byte of the address, and the last one is what remains of it. -/
def inetAton (s : CString) : Option UInt32 :=
  (inetParts 3 s.bytes).bind fun (parts,last) =>
    let remains := 256 ^ (4 - parts.length)
    if last < remains then
      some (swapped uint32 (.ofNat (parts.foldl (fun n part => 256 * n + part) 0 * remains + last)))
    else none

section Decimal

theorem digitChar_toUInt8 : ∀ d < 10, (Nat.digitChar d).toUInt8 = .ofNat (48 + d) := by decide

theorem decimal_eq (n : Nat) :
    decimal n = (if n < 10 then [] else decimal (n / 10)) ++ [.ofNat (48 + n % 10)] := by
  unfold decimal
  rw [Nat.toDigits_eq_if (by decide)]
  split_ifs with small
  · rw [Nat.mod_eq_of_lt small,List.map_singleton,digitChar_toUInt8 n small,List.nil_append]
  · rw [List.map_append,List.map_singleton,digitChar_toUInt8 _ (Nat.mod_lt n (by decide))]

theorem digitValue_ofNat : ∀ d < 10, digitValue (.ofNat (48 + d)) = d := by decide

theorem decimal_bytes (n : Nat) : ∀ c ∈ decimal n, ∃ d < 10, c = .ofNat (48 + d) := by
  induction n using Nat.strong_induction_on with
  | h n ih =>
    intro c member
    rw [decimal_eq] at member
    rcases List.mem_append.mp member with before | last
    · split_ifs at before with small
      · exact absurd before List.not_mem_nil
      · exact ih (n / 10) (by omega) c before
    · exact ⟨n % 10,Nat.mod_lt n (by decide),List.mem_singleton.mp last⟩

theorem decimal_digits (n : Nat) : ∀ c ∈ decimal n, digitValue c < 10 := by
  intro c member
  obtain ⟨d,small,rfl⟩ := decimal_bytes n c member
  rw [digitValue_ofNat d small]
  exact small

theorem numeral_append (base : Nat) (digits : List UInt8) (c : UInt8) :
    numeral base (digits ++ [c]) = base * numeral base digits + digitValue c := by
  rw [numeral,List.foldl_append]
  rfl

theorem numeral_decimal (n : Nat) : numeral 10 (decimal n) = n := by
  induction n using Nat.strong_induction_on with
  | h n ih =>
    rw [decimal_eq,numeral_append,digitValue_ofNat _ (Nat.mod_lt n (by decide))]
    split_ifs with small
    · rw [show numeral 10 [] = 0 from rfl,Nat.mod_eq_of_lt small]
      omega
    · rw [ih (n / 10) (by omega)]
      omega

theorem decimal_ne_nil (n : Nat) : decimal n ≠ [] := by
  rw [decimal_eq]
  exact List.append_ne_nil_of_right_ne_nil _ (List.cons_ne_nil _ _)

theorem decimal_head (n : Nat) (positive : 0 < n) : (decimal n).head? ≠ some '0'.toUInt8 := by
  induction n using Nat.strong_induction_on with
  | h n ih =>
    rw [decimal_eq]
    split_ifs with small
    · intro zero
      have same : UInt8.ofNat (48 + n % 10) = '0'.toUInt8 := Option.some.inj zero
      have value := digitValue_ofNat _ (Nat.mod_lt n (show 0 < 10 by decide))
      rw [same,Nat.mod_eq_of_lt small] at value
      exact absurd value positive.ne
    · rw [List.head?_append_of_ne_nil _ (decimal_ne_nil _)]
      exact ih (n / 10) (by omega) (by omega)

theorem decimal_length (n k : Nat) (positive : 0 < k) (bound : n < 10 ^ k) : (decimal n).length ≤ k := by
  rw [decimal,List.length_map]
  exact (Nat.length_toDigits_le_iff (by decide) positive).mpr bound

variable {rest : List UInt8}

theorem takeWhile_decimal (n : Nat) (ends : ∀ c ∈ rest.head?, 10 ≤ digitValue c) :
    (decimal n ++ rest).takeWhile (digitValue · < 10) = decimal n := by
  rw [List.takeWhile_append_of_pos fun c member => decide_eq_true (decimal_digits n c member)]
  cases rest with
  | nil => simp
  | cons c rest => simp [ends c rfl]

theorem leading_decimal (n : Nat) (ends : ∀ c ∈ rest.head?, 10 ≤ digitValue c) :
    leading 10 (decimal n ++ rest) = (n,rest) := by
  rw [leading,takeWhile_decimal n ends,numeral_decimal,
    List.dropWhile_append_of_pos fun c member => decide_eq_true (decimal_digits n c member)]
  cases rest with
  | nil => rfl
  | cons c rest => simp [ends c rfl]

def Ends (rest : List UInt8) : Prop := ∀ c ∈ rest.head?, c = '.'.toUInt8

theorem ends_digit (ends : Ends rest) : ∀ c ∈ rest.head?, 10 ≤ digitValue c := by
  intro c first
  rw [ends c first]
  decide

theorem hexadecimal_decimal (n : Nat) (ends : Ends rest) : hexadecimal (decimal n ++ rest) = none := by
  by_cases zero : n = 0
  · rw [zero,show decimal 0 = ['0'.toUInt8] from rfl,List.singleton_append]
    cases rest with
    | nil => rfl
    | cons x rest =>
      rw [ends x rfl]
      cases rest with
      | nil => rfl
      | cons c rest => rfl
  · have head := decimal_head n (Nat.pos_of_ne_zero zero)
    obtain ⟨first,others,starts⟩ := List.exists_cons_of_ne_nil (decimal_ne_nil n)
    rw [starts] at head ⊢
    rw [List.cons_append]
    unfold hexadecimal
    split
    · rename_i same
      rw [if_neg]
      rintro ⟨rfl,-⟩
      rw [(List.cons.inj same).1] at head
      exact head rfl
    · rfl

theorem strtoul_decimal (n : Nat) (ends : Ends rest) : strtoul (decimal n ++ rest) = (n,rest) := by
  rw [strtoul,hexadecimal_decimal n ends]
  by_cases zero : n = 0
  · subst n
    rw [show decimal 0 = ['0'.toUInt8] from rfl,List.singleton_append,List.head?_cons,if_pos rfl]
    cases rest with
    | nil => rfl
    | cons c rest =>
      rw [ends c rfl]
      rfl
  · rw [List.head?_append_of_ne_nil _ (decimal_ne_nil n),if_neg (decimal_head n (Nat.pos_of_ne_zero zero))]
    exact leading_decimal n (ends_digit ends)

end Decimal

section Addresses

def dotted (a b c d : UInt8) : List UInt8 :=
  decimal a.toNat ++ '.'.toUInt8 :: (decimal b.toNat ++ '.'.toUInt8 :: (decimal c.toNat ++
    '.'.toUInt8 :: decimal d.toNat))

theorem starts_decimal (n : Nat) (rest : List UInt8) : (decimal n ++ rest).head?.any (digitValue · < 10) := by
  rw [List.head?_append_of_ne_nil _ (decimal_ne_nil n)]
  obtain ⟨first,others,starts⟩ := List.exists_cons_of_ne_nil (decimal_ne_nil n)
  have digit := decimal_digits n first (by rw [starts]; exact List.mem_cons_self)
  simpa [starts] using digit

theorem inetParts_dot (room : Nat) (b : UInt8) (rest : List UInt8) :
    inetParts (room + 1) (decimal b.toNat ++ '.'.toUInt8 :: rest) =
      (inetParts room rest).map fun (parts,last) => (b.toNat :: parts,last) := by
  have dot : Ends ('.'.toUInt8 :: rest) := fun c first => (Option.some.inj first).symm
  have small := b.toNat_lt
  conv_lhs => unfold inetParts
  rw [if_pos (starts_decimal _ _),strtoul_decimal _ dot]
  simp only [List.head?_cons,if_true,List.tail_cons]
  rw [if_neg (by omega),if_neg (by omega)]

theorem inetParts_last (room : Nat) (b : UInt8) : inetParts room (decimal b.toNat) = some ([],b.toNat) := by
  have ending : Ends [] := fun c first => absurd first (by simp)
  have small := b.toNat_lt
  have starts := starts_decimal b.toNat []
  have read := strtoul_decimal b.toNat ending
  rw [List.append_nil] at starts read
  unfold inetParts
  rw [if_pos starts,read]
  simp only [List.head?_nil]
  rw [if_neg (by omega),if_neg (by simp)]
  rfl

theorem inetParts_dotted (a b c d : UInt8) :
    inetParts 3 (dotted a b c d) = some ([a.toNat,b.toNat,c.toNat],d.toNat) := by
  rw [dotted,inetParts_dot,inetParts_dot,inetParts_dot,inetParts_last]
  rfl

theorem toNat_uint32_symm (b : Bytes 4) : (uint32.symm b).toNat =
    (b 0).toNat + (b 1).toNat * 256 + (b 2).toNat * 256 ^ 2 + (b 3).toNat * 256 ^ 3 := by
  have sum : (uint32.symm b).toNat = ∑ i : Fin 4, (b i).toNat * 256 ^ (i : ℕ) := rfl
  rw [sum,Fin.sum_univ_four]
  simp

theorem dotted_bytes (a b c d : UInt8) : ∀ x ∈ dotted a b c d, 46 ≤ x := by
  have digit (b : UInt8) : ∀ x ∈ decimal b.toNat, 46 ≤ x := by
    intro x member
    obtain ⟨v,small,rfl⟩ := decimal_bytes b.toNat x member
    exact (show ∀ v < 10, (46 : UInt8) ≤ .ofNat (48 + v) by decide) v small
  have dot : 46 ≤ '.'.toUInt8 := by decide
  simp only [dotted,List.mem_append,List.mem_cons,or_imp,forall_and,forall_eq]
  exact ⟨digit a,dot,digit b,dot,digit c,dot,digit d⟩

theorem dotted_ne_nil (a b c d : UInt8) : dotted a b c d ≠ [] :=
  List.append_ne_nil_of_left_ne_nil (decimal_ne_nil _) _

theorem dotted_length (a b c d : UInt8) : (dotted a b c d).length ≤ 15 := by
  have short (b : UInt8) : (decimal b.toNat).length ≤ 3 :=
    decimal_length b.toNat 3 (by decide) (Nat.lt_of_lt_of_le b.toNat_lt (by decide))
  have first := short a
  have second := short b
  have third := short c
  have fourth := short d
  simp only [dotted,List.length_append,List.length_cons]
  omega

def inetNtoa (addr : UInt32) : CString :=
  ⟨dotted (uint32 addr 0) (uint32 addr 1) (uint32 addr 2) (uint32 addr 3),
    fun zero => absurd (dotted_bytes _ _ _ _ 0 zero) (by decide)⟩

theorem inetAton_inetNtoa (addr : UInt32) : inetAton (inetNtoa addr) = some addr := by
  have first := (uint32 addr 0).toNat_lt
  have second := (uint32 addr 1).toNat_lt
  have third := (uint32 addr 2).toNat_lt
  have fourth := (uint32 addr 3).toNat_lt
  have value : .ofNat ((256 * (256 * (256 * 0 + (uint32 addr 0).toNat) + (uint32 addr 1).toNat) +
      (uint32 addr 2).toNat) * 256 + (uint32 addr 3).toNat) = uint32.symm (uint32 addr ∘ Fin.rev) := by
    apply UInt32.toNat_inj.mp
    have order : Fin.rev (0 : Fin 4) = 3 ∧ Fin.rev (1 : Fin 4) = 2 ∧ Fin.rev (2 : Fin 4) = 1 ∧
        Fin.rev (3 : Fin 4) = 0 := by decide
    rw [toNat_uint32_symm,UInt32.toNat_ofNat']
    simp only [Function.comp_apply,order]
    omega
  have whole : swapped uint32 (uint32.symm (uint32 addr ∘ Fin.rev)) = addr := swapped_swapped uint32 addr
  rw [← value] at whole
  rw [inetAton,inetNtoa,inetParts_dotted]
  exact (if_pos fourth).trans (congrArg some whole)

end Addresses

section Integers

theorem zero_not_decimal (n : Nat) : 0 ∉ decimal n := by
  intro zero
  exact absurd (decimal_digits n 0 zero) (by decide)

def signed (z : Int) : CString where
  bytes := if z < 0 then '-'.toUInt8 :: decimal z.natAbs else decimal z.natAbs
  noZero := by
    split_ifs
    · exact List.not_mem_cons_of_ne_of_not_mem (by decide) (zero_not_decimal _)
    · exact zero_not_decimal _

theorem decimal_first (n : Nat) : ∃ c rest, decimal n = c :: rest ∧ isSpace c = false ∧
    c ≠ '-'.toUInt8 ∧ c ≠ '+'.toUInt8 := by
  obtain ⟨c,rest,starts⟩ := List.exists_cons_of_ne_nil (decimal_ne_nil n)
  obtain ⟨d,small,rfl⟩ := decimal_bytes n c (by rw [starts]; exact List.mem_cons_self)
  have all : ∀ d < 10, isSpace (.ofNat (48 + d)) = false ∧ UInt8.ofNat (48 + d) ≠ '-'.toUInt8 ∧
      UInt8.ofNat (48 + d) ≠ '+'.toUInt8 := by decide
  exact ⟨_,rest,starts,all d small⟩

theorem stoi_signed (z : Int) (low : -2 ^ 31 ≤ z) (high : z < 2 ^ 31) : stoi (signed z) = .ok z := by
  have digits : (decimal z.natAbs).takeWhile (digitValue · < 10) = decimal z.natAbs := by
    have whole : (decimal z.natAbs ++ []).takeWhile (digitValue · < 10) = decimal z.natAbs :=
      takeWhile_decimal z.natAbs fun c first => absurd first (by simp)
    rwa [List.append_nil] at whole
  obtain ⟨c,rest,starts,blank,minus,plus⟩ := decimal_first z.natAbs
  have start : (decimal z.natAbs).dropWhile isSpace = decimal z.natAbs ∧
      (decimal z.natAbs).head? ≠ some '-'.toUInt8 ∧ (decimal z.natAbs).head? ≠ some '+'.toUInt8 := by
    rw [starts]
    simp [blank,minus,plus]
  by_cases negative : z < 0
  · have value : -(z.natAbs : Int) = z := by omega
    have sign : ('-'.toUInt8 :: decimal z.natAbs).dropWhile isSpace = '-'.toUInt8 :: decimal z.natAbs :=
      List.dropWhile_cons_of_neg (by decide)
    simp only [stoi,signed,if_pos negative,sign,List.head?_cons,true_or,if_true,List.tail_cons,digits,
      if_neg (decimal_ne_nil z.natAbs),numeral_decimal,value]
    exact if_pos ⟨low,high⟩
  · have value : (z.natAbs : Int) = z := by omega
    simp only [stoi,signed,if_neg negative,start,or_self,if_false,digits,
      if_neg (decimal_ne_nil z.natAbs),numeral_decimal,value]
    exact if_pos ⟨low,high⟩

end Integers

end P2pStun.CStrings
