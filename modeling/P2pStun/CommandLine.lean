import P2pStun.CNumbers
import P2pStun.PortManager
import P2pStun.P2pPsConnector

/-! The command line of the client: which runner it starts, and with what. -/
namespace P2pStun
open CStrings

inductive Launch
  | normal (address : Address)
  | statistical (address : Address) (runs : UInt32)
  | normalPs (address1 address2 : Address) (isSymNat : Bool) (simPortAllocsPerSecond : UInt16)
  | statisticalPs (address1 address2 : Address) (isSymNat : Bool) (runs : UInt32)
      (simPortAllocsPerSecond : UInt16)
deriving DecidableEq

/-- Without a runner started: the usage text and a result, an exception of `stoi` that nobody
catches, or a read beyond the arguments. -/
inductive Rejected
  | usage (result : Nat)
  | thrown (e : StoiError)
  | beyond
deriving DecidableEq

namespace CommandLine

/-- Whether `strncmp` finds no difference in the first `n` characters. -/
def strncmpEqual (a b : CString) (n : Nat) : Bool := (a.bytes ++ [0]).take n == (b.bytes ++ [0]).take n

def parseIp (ipAddr : CString) : UInt32 :=
  match inetAton ipAddr with
  | none => 0
  | some addr => ntohl addr

variable (argv : List CString)

def argument (n : Nat) : Except Rejected CString :=
  match argv[n]? with
  | none => .error .beyond
  | some s => .ok s

def integer (n : Nat) : Except Rejected Int := do
  let s ← argument argv n
  match stoi s with
  | .error e => .error (.thrown e)
  | .ok value => .ok value

def address (n : Nat) : Except Rejected Address := do
  let s ← argument argv n
  let ip := parseIp s
  if ip = 0 then .error (.usage 1)
  else
    let port ← integer argv (n + 1)
    return ⟨ip,.ofInt port⟩

def main : Except Rejected Launch :=
  if argv.length < 4 then .error (.usage 1)
  else do
    let mode ← argument argv 1
    if strncmpEqual (.ofString "nr") mode 2 then
      let address ← address argv 2
      return .normal address
    else if strncmpEqual (.ofString "snr") mode 3 then
      let address ← address argv 2
      let statRuns ← integer argv 4
      return .statistical address (.ofInt statRuns)
    else if strncmpEqual (.ofString "ps") mode 2 then
      let address1 ← address argv 2
      let address2 ← address argv 4
      let isSym ← integer argv 6
      let simAllocs ← integer argv 7
      return .normalPs address1 address2 (isSym ≠ 0) (.ofInt simAllocs)
    else if strncmpEqual (.ofString "sps") mode 3 then
      let address1 ← address argv 2
      let address2 ← address argv 4
      let isSym ← integer argv 6
      let statRuns ← integer argv 7
      let simAllocs ← integer argv 8
      return .statisticalPs address1 address2 (isSym ≠ 0) (.ofInt statRuns) (.ofInt simAllocs)
    else .error (.usage 4)

variable {argv} {n : Nat}

theorem bind_ok {α β : Type} {first : Except Rejected α} {next : α → Except Rejected β} {result : β}
    (ok : (first >>= next) = .ok result) : ∃ value, first = .ok value ∧ next value = .ok result := by
  cases first with
  | error e => cases ok
  | ok value => exact ⟨value,rfl,ok⟩

theorem address_nonzero {a : Address} (ok : address argv n = .ok a) : a.ip ≠ 0 := by
  obtain ⟨s,_,ok⟩ := bind_ok ok
  by_cases zero : parseIp s = 0
  · rw [if_pos zero] at ok
    cases ok
  · rw [if_neg zero] at ok
    obtain ⟨port,_,ok⟩ := bind_ok ok
    cases ok
    exact zero

theorem integer_signed {z : Int} (found : argv[n]? = some (signed z)) (low : -2 ^ 31 ≤ z) (high : z < 2 ^ 31) :
    integer argv n = .ok z := by
  simp only [integer,argument,found,bind,Except.bind,stoi_signed z low high]

theorem parseIp_inetNtoa (ip : UInt32) : parseIp (inetNtoa (htonl ip)) = ip := by
  rw [parseIp,inetAton_inetNtoa]
  exact ntohl_htonl ip

theorem integer_uint16 {x : UInt16} (found : argv[n]? = some (signed x.toNat)) :
    integer argv n = .ok x.toNat ∧ UInt16.ofInt x.toNat = x := by
  have bound := x.toNat_lt
  have value : ((x.toNat : Int) % 2 ^ 16).toNat = x.toNat := by omega
  refine ⟨integer_signed found (by omega) (by omega),?_⟩
  rw [UInt16.ofInt,value]
  exact UInt16.ofNat_toNat

theorem integer_bool {b : Bool} (found : argv[n]? = some (signed b.toNat)) :
    integer argv n = .ok b.toNat ∧ decide ((b.toNat : Int) ≠ 0) = b := by
  cases b with
  | false => exact ⟨integer_signed found (by decide) (by decide),rfl⟩
  | true => exact ⟨integer_signed found (by decide) (by decide),rfl⟩

def addressWords (a : Address) : List CString := [inetNtoa (htonl a.ip),signed a.port.toNat]

theorem address_words {a : Address} (ip : argv[n]? = some (inetNtoa (htonl a.ip)))
    (port : argv[n + 1]? = some (signed a.port.toNat)) (nonzero : a.ip ≠ 0) : address argv n = .ok a := by
  obtain ⟨read,narrow⟩ := integer_uint16 port
  simp only [address,argument,ip,bind,Except.bind,parseIp_inetNtoa,if_neg nonzero,read,narrow]
  rfl

/-- A value of `uint32_t` as the `int` with the same bits. -/
def asInt (x : UInt32) : Int := if x.toNat < 2 ^ 31 then x.toNat else x.toNat - 2 ^ 32

theorem ofInt_asInt (x : UInt32) : UInt32.ofInt (asInt x) = x := by
  have bound := x.toNat_lt
  have value : (asInt x % 2 ^ 32).toNat = x.toNat := by
    unfold asInt
    split_ifs <;> omega
  rw [UInt32.ofInt,value]
  exact UInt32.ofNat_toNat

theorem integer_asInt {x : UInt32} (found : argv[n]? = some (signed (asInt x))) :
    integer argv n = .ok (asInt x) := by
  have bound := x.toNat_lt
  refine integer_signed found ?_ ?_ <;> (unfold asInt; split_ifs <;> omega)

section Modes

variable (enough : 4 ≤ argv.length)

include enough

theorem main_normal {a : Address} (mode : argument argv 1 = .ok (.ofString "nr")) (read : address argv 2 = .ok a) :
    main argv = .ok (.normal a) := by
  have same : strncmpEqual (.ofString "nr") (.ofString "nr") 2 = true := by decide
  simp only [main,if_neg (Nat.not_lt.mpr enough),mode,read,same,bind,Except.bind,if_true,pure,Except.pure]

theorem main_statistical {a : Address} {runs : Int} (mode : argument argv 1 = .ok (.ofString "snr"))
    (read : address argv 2 = .ok a) (count : integer argv 4 = .ok runs) :
    main argv = .ok (.statistical a (.ofInt runs)) := by
  have normal : strncmpEqual (.ofString "nr") (.ofString "snr") 2 = false := by decide
  have same : strncmpEqual (.ofString "snr") (.ofString "snr") 3 = true := by decide
  simp only [main,if_neg (Nat.not_lt.mpr enough),mode,read,count,normal,same,bind,Except.bind,Bool.false_eq_true,
    if_false,if_true,pure,Except.pure]

theorem main_normalPs {a b : Address} {sym rate : Int} (mode : argument argv 1 = .ok (.ofString "ps"))
    (first : address argv 2 = .ok a) (second : address argv 4 = .ok b) (truth : integer argv 6 = .ok sym)
    (allocs : integer argv 7 = .ok rate) : main argv = .ok (.normalPs a b (sym ≠ 0) (.ofInt rate)) := by
  have normal : strncmpEqual (.ofString "nr") (.ofString "ps") 2 = false := by decide
  have statistical : strncmpEqual (.ofString "snr") (.ofString "ps") 3 = false := by decide
  have same : strncmpEqual (.ofString "ps") (.ofString "ps") 2 = true := by decide
  simp only [main,if_neg (Nat.not_lt.mpr enough),mode,first,second,truth,allocs,normal,statistical,same,bind,
    Except.bind,Bool.false_eq_true,if_false,if_true,pure,Except.pure]

theorem main_statisticalPs {a b : Address} {sym runs rate : Int} (mode : argument argv 1 = .ok (.ofString "sps"))
    (first : address argv 2 = .ok a) (second : address argv 4 = .ok b) (truth : integer argv 6 = .ok sym)
    (count : integer argv 7 = .ok runs) (allocs : integer argv 8 = .ok rate) :
    main argv = .ok (.statisticalPs a b (sym ≠ 0) (.ofInt runs) (.ofInt rate)) := by
  have normal : strncmpEqual (.ofString "nr") (.ofString "sps") 2 = false := by decide
  have statistical : strncmpEqual (.ofString "snr") (.ofString "sps") 3 = false := by decide
  have normalPs : strncmpEqual (.ofString "ps") (.ofString "sps") 2 = false := by decide
  have same : strncmpEqual (.ofString "sps") (.ofString "sps") 3 = true := by decide
  simp only [main,if_neg (Nat.not_lt.mpr enough),mode,first,second,truth,count,allocs,normal,statistical,normalPs,
    same,bind,Except.bind,Bool.false_eq_true,if_false,if_true,pure,Except.pure]

end Modes

end CommandLine

namespace Launch
open CommandLine

def servers : Launch → List Address
  | .normal address => [address]
  | .statistical address _ => [address]
  | .normalPs address1 address2 _ _ => [address1,address2]
  | .statisticalPs address1 address2 _ _ _ => [address1,address2]

def Addressed (l : Launch) : Prop := ∀ a ∈ l.servers, a.ip ≠ 0

def words : Launch → List CString
  | .normal address => .ofString "nr" :: addressWords address
  | .statistical address runs => .ofString "snr" :: addressWords address ++ [signed (asInt runs)]
  | .normalPs address1 address2 isSymNat rate =>
    .ofString "ps" :: addressWords address1 ++ addressWords address2 ++
      [signed isSymNat.toNat,signed rate.toNat]
  | .statisticalPs address1 address2 isSymNat runs rate =>
    .ofString "sps" :: addressWords address1 ++ addressWords address2 ++
      [signed isSymNat.toNat,signed (asInt runs),signed rate.toNat]

theorem main_words (program : CString) (l : Launch) (rest : List CString) (addressed : l.Addressed) :
    main (program :: l.words ++ rest) = .ok l := by
  have enough : 4 ≤ (program :: l.words ++ rest).length := by
    cases l <;> simp [words,addressWords]
  cases l with
  | normal a => exact main_normal enough rfl (address_words rfl rfl (addressed a List.mem_cons_self))
  | statistical a runs =>
    rw [main_statistical enough rfl (address_words rfl rfl (addressed a List.mem_cons_self)) (integer_asInt rfl),
      ofInt_asInt]
  | normalPs a b sym rate =>
    have symAt : (program :: (normalPs a b sym rate).words ++ rest)[6]? = some (signed sym.toNat) := rfl
    have rateAt : (program :: (normalPs a b sym rate).words ++ rest)[7]? = some (signed rate.toNat) := rfl
    obtain ⟨truth,sameTruth⟩ := integer_bool symAt
    obtain ⟨allocs,sameRate⟩ := integer_uint16 rateAt
    rw [main_normalPs enough rfl (address_words rfl rfl (addressed a List.mem_cons_self))
      (address_words rfl rfl (addressed b (List.mem_cons_of_mem _ List.mem_cons_self))) truth allocs,
      sameTruth,sameRate]
  | statisticalPs a b sym runs rate =>
    have symAt : (program :: (statisticalPs a b sym runs rate).words ++ rest)[6]? = some (signed sym.toNat) := rfl
    have rateAt : (program :: (statisticalPs a b sym runs rate).words ++ rest)[8]? = some (signed rate.toNat) := rfl
    obtain ⟨truth,sameTruth⟩ := integer_bool symAt
    obtain ⟨allocs,sameRate⟩ := integer_uint16 rateAt
    rw [main_statisticalPs enough rfl (address_words rfl rfl (addressed a List.mem_cons_self))
      (address_words rfl rfl (addressed b (List.mem_cons_of_mem _ List.mem_cons_self))) truth
      (integer_asInt rfl) allocs,sameTruth,ofInt_asInt,sameRate]

theorem addressed_of_main {argv : List CString} {l : Launch} (ok : main argv = .ok l) : l.Addressed := by
  unfold main at ok
  split at ok
  · cases ok
  · obtain ⟨mode,_,ok⟩ := bind_ok ok
    split_ifs at ok
    · obtain ⟨a,read,ok⟩ := bind_ok ok
      cases ok
      simpa [Addressed,servers] using address_nonzero read
    · obtain ⟨a,read,ok⟩ := bind_ok ok
      obtain ⟨runs,_,ok⟩ := bind_ok ok
      cases ok
      simpa [Addressed,servers] using address_nonzero read
    · obtain ⟨a,read,ok⟩ := bind_ok ok
      obtain ⟨b,read',ok⟩ := bind_ok ok
      obtain ⟨sym,_,ok⟩ := bind_ok ok
      obtain ⟨rate,_,ok⟩ := bind_ok ok
      cases ok
      simpa [Addressed,servers] using And.intro (address_nonzero read) (address_nonzero read')
    · obtain ⟨a,read,ok⟩ := bind_ok ok
      obtain ⟨b,read',ok⟩ := bind_ok ok
      obtain ⟨sym,_,ok⟩ := bind_ok ok
      obtain ⟨runs,_,ok⟩ := bind_ok ok
      obtain ⟨rate,_,ok⟩ := bind_ok ok
      cases ok
      simpa [Addressed,servers] using And.intro (address_nonzero read) (address_nonzero read')

/-- A runner can be started if and only if none of its servers has the address zero, and then
its arguments start it, whatever follows them. -/
theorem started_iff (program : CString) (l : Launch) (rest : List CString) :
    (main (program :: l.words ++ rest) = .ok l ↔ l.Addressed) ∧ ((∃ argv, main argv = .ok l) ↔ l.Addressed) :=
  ⟨⟨addressed_of_main,main_words program l rest⟩,
    fun ⟨_,ok⟩ => addressed_of_main ok,fun addressed => ⟨_,main_words program l [] addressed⟩⟩

def usageWords (a b : Address) (isSymNat : Bool) (rate : UInt16) (runs : UInt32) : List CString :=
  .ofString "sps" :: addressWords a ++ addressWords b ++
    [signed isSymNat.toNat,signed rate.toNat,signed (asInt runs)]

/-- Such a command line starts as many runs as it asks for allocations in a second, and the
other way round. -/
theorem main_usage (program : CString) (a b : Address) (isSymNat : Bool) (rate : UInt16) (runs : UInt32)
    (rest : List CString) (first : a.ip ≠ 0) (second : b.ip ≠ 0) :
    main (program :: usageWords a b isSymNat rate runs ++ rest) =
      .ok (.statisticalPs a b isSymNat rate.toUInt32 runs.toUInt16) := by
  have enough : 4 ≤ (program :: usageWords a b isSymNat rate runs ++ rest).length := by
    simp [usageWords,addressWords]
  have symAt : (program :: usageWords a b isSymNat rate runs ++ rest)[6]? = some (signed isSymNat.toNat) := rfl
  have rateAt : (program :: usageWords a b isSymNat rate runs ++ rest)[7]? = some (signed rate.toNat) := rfl
  obtain ⟨truth,sameTruth⟩ := integer_bool symAt
  obtain ⟨allocs,_⟩ := integer_uint16 rateAt
  have widened : UInt32.ofInt rate.toNat = rate.toUInt32 := by
    have bound := rate.toNat_lt
    apply UInt32.toNat_inj.mp
    rw [UInt32.ofInt,UInt32.toNat_ofNat',UInt16.toNat_toUInt32]
    omega
  have narrowed : UInt16.ofInt (asInt runs) = runs.toUInt16 := by
    apply UInt16.toNat_inj.mp
    rw [UInt16.ofInt,UInt16.toNat_ofNat',UInt32.toNat_toUInt16,asInt]
    split_ifs <;> omega
  rw [main_statisticalPs enough rfl (address_words rfl rfl first) (address_words rfl rfl second) truth allocs
    (integer_asInt rfl),sameTruth,widened,narrowed]

example : main [.ofString "p2p_client",.ofString "sps",.ofString "10.10.10.10",.ofString "3333",
    .ofString "10.10.10.11",.ofString "3333",.ofString "1",.ofString "50",.ofString "5000"] =
    .ok (.statisticalPs ⟨0x0a0a0a0a,3333⟩ ⟨0x0a0a0a0b,3333⟩ true 50 5000) := by decide +kernel

def setUp (portman : PortManager) : Launch → PortManager
  | .normal _ | .statistical _ _ => portman
  | .normalPs _ _ _ rate | .statisticalPs _ _ _ _ rate =>
    if rate ≠ 0 then (portman.setSimulatedAllocsPerSecond rate).setReservedPortRangePerAlloc (rate * 5 + 50)
    else portman

/-- The range is five times the rate and fifty, until this no longer fits in its 16 bits. -/
theorem setUp_range (portman : PortManager) (a b : Address) (isSymNat : Bool) (runs : UInt32) (rate : UInt16)
    (simulated : rate ≠ 0) :
    ((statisticalPs a b isSymNat runs rate).setUp portman).reservedPortRangePerAlloc.toNat = 5 * rate.toNat + 50 ↔
      rate.toNat ≤ 13097 := by
  have bound := rate.toNat_lt
  have value : ((statisticalPs a b isSymNat runs rate).setUp portman).reservedPortRangePerAlloc = rate * 5 + 50 := by
    rw [setUp,if_pos simulated]
    rfl
  rw [value,UInt16.toNat_add,UInt16.toNat_mul]
  change (rate.toNat * 5 % 2 ^ 16 + 50) % 2 ^ 16 = 5 * rate.toNat + 50 ↔ rate.toNat ≤ 13097
  omega

end Launch

end P2pStun
