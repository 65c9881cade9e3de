import P2pStun.ByteLayout

/-! Strings in memory, which end at the first zero byte, and `snprintf` for formats whose
conversions are all `%s`. -/
namespace P2pStun.CStrings
open ByteLayout

variable {n : Nat}

/-- The content of a string, without the zero that ends it. -/
structure CString where
  bytes : List UInt8
  noZero : 0 ∉ bytes

def CString.ofString (s : String) (noZero : 0 ∉ s.toList.map Char.toUInt8 := by decide) : CString :=
  ⟨s.toList.map Char.toUInt8,noZero⟩

def stringAt (b : Bytes n) : List UInt8 := (List.ofFn b).takeWhile (· ≠ 0)

/-- The text a format stands for; a conversion without an argument is copied. -/
def formatted : List Char → List CString → List UInt8
  | '%' :: 's' :: rest, arg :: args => arg.bytes ++ formatted rest args
  | c :: rest, args => c.toUInt8 :: formatted rest args
  | [], _ => []

/-- At most `size - 1` bytes and a zero are written; the length of the whole text is returned. -/
def snprintf (b : Bytes n) (size : Nat) (format : String) (args : List CString) : Bytes n × Nat :=
  let text := formatted format.toList args
  (if size = 0 then b else overwrite b (text.take (size - 1) ++ [0]),text.length)

theorem ofFn_overwrite (b : Bytes n) (data : List UInt8) (fits : data.length ≤ n) :
    List.ofFn (overwrite b data) = data ++ (List.ofFn b).drop data.length := by
  apply List.ext_getElem
  · simp
    omega
  · intro i inside _
    have bound : i < n := by simpa using inside
    rw [List.getElem_ofFn]
    by_cases reached : i < data.length
    · rw [overwrite_getElem b data ⟨i,bound⟩ reached,List.getElem_append_left reached]
    · rw [overwrite_beyond b data ⟨i,bound⟩ (Nat.not_lt.mp reached),
        List.getElem_append_right (Nat.not_lt.mp reached),List.getElem_drop,List.getElem_ofFn]
      congr 2
      omega

theorem stringAt_overwrite (b : Bytes n) (text : List UInt8) (noZero : 0 ∉ text) (room : text.length < n) :
    stringAt (overwrite b (text ++ [0])) = text := by
  have content : ∀ c ∈ text, decide (c ≠ 0) = true := by
    intro c member
    exact decide_eq_true fun zero => noZero (zero ▸ member)
  rw [stringAt,ofFn_overwrite b _ (by simp; omega),List.append_assoc,
    List.takeWhile_append_of_pos content,List.singleton_append,List.takeWhile_cons_of_neg (by simp),
    List.append_nil]

theorem length_stringAt_le (b : Bytes n) : (stringAt b).length ≤ n := by
  have shorter := (List.takeWhile_prefix (fun c : UInt8 => decide (c ≠ 0)) (l := List.ofFn b)).length_le
  rwa [List.length_ofFn] at shorter

theorem head_stringAt (b : Bytes (n + 1)) : ∀ c ∈ (stringAt b).head?, c = b 0 := by
  intro c member
  rw [stringAt,List.ofFn_succ,List.takeWhile_cons] at member
  split_ifs at member
  · exact (Option.mem_some.mp member).symm
  · contradiction

theorem stringAt_snprintf (b : Bytes n) (size : Nat) (positive : 0 < size) (fits : size ≤ n)
    (format : String) (args : List CString) (noZero : 0 ∉ formatted format.toList args) :
    stringAt (snprintf b size format args).1 = (formatted format.toList args).take (size - 1) := by
  simp only [snprintf,if_neg (Nat.pos_iff_ne_zero.mp positive)]
  apply stringAt_overwrite
  · exact fun member => noZero (List.mem_of_mem_take member)
  · rw [List.length_take]
    omega

theorem formatted_noZero (format : List Char) (args : List CString)
    (clean : 0 ∉ format.map Char.toUInt8) : 0 ∉ formatted format args := by
  fun_induction formatted format args with
  | case1 rest arg args ih =>
    intro member
    rcases List.mem_append.mp member with given | later
    · exact arg.noZero given
    · exact ih (fun zero => clean (by simp [zero])) later
  | case2 c rest args _ ih =>
    obtain ⟨first,others⟩ := not_or.mp (List.mem_cons.not.mp clean)
    intro member
    rcases List.mem_cons.mp member with here | later
    · exact first here
    · exact ih others later
  | case3 => exact List.not_mem_nil

end P2pStun.CStrings
