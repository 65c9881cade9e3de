import P2pStun.CStrings

/-! The lines of the log, `log_t`. A line is formatted into a buffer on the stack and, where
that is too small, once more into memory of its length, of which `snprintf` is told to
leave the last byte out. -/
namespace P2pStun
open ByteLayout CStrings

inductive Loglevel
  | debug | success | info | warning | error | statistic | silent
deriving DecidableEq

def Loglevel.value : Loglevel → Nat
  | debug => 0 | success => 1 | info => 2 | warning => 3 | error => 4 | statistic => 5 | silent => 6

inductive Printed
  | printf (text : String) | vprintf (format : List UInt8)

def bufferSize : Nat := 1024

def logFormat : String := "|%s-%s| %s\n"

/-- What a call finds outside: the local time at two readings, none where it cannot be had,
the content of its buffer and of new memory, and the result of `vprintf`. -/
structure LogCall where
  localTime : Option CString
  localTimeAgain : Option CString
  msg : Bytes bufferSize
  memory : (n : Nat) → Bytes n
  vprintf : List UInt8 → Int

def getTimestamp : Option CString → List Printed × Option CString
  | none => ([.printf "Failed getting local time\n"],none)
  | some time => ([],some time)

def writeMessage (level format : CString) (e : LogCall) : List Printed × Int :=
  match getTimestamp e.localTime with
  | (printed,none) => (printed,0)
  | (_,some time) =>
    let (msg,written) := snprintf e.msg bufferSize logFormat [time,level,format]
    let len : UInt32 := .ofNat written
    if len < .ofNat bufferSize then
      let failed := if len < 0 then [.printf "Failed formatting log message"] else []
      (failed ++ [.vprintf (stringAt msg)],e.vprintf (stringAt msg))
    else
      -- this reading of the time only makes a pointer for the memory
      let (printed,_) := getTimestamp e.localTimeAgain
      let (fullMsg,written) := snprintf (e.memory (len + 1).toNat) len.toNat logFormat [time,level,format]
      let len : UInt32 := .ofNat written
      let failed := if len < 0 then [.printf "Failed formatting log message"] else []
      (printed ++ failed ++ [.vprintf (stringAt fullMsg)],e.vprintf (stringAt fullMsg))

def passed (printed : List Printed) : List (List UInt8) :=
  printed.filterMap fun
    | .vprintf format => some format
    | .printf _ => none

def line (time level format : CString) : List UInt8 :=
  ['|'.toUInt8] ++ time.bytes ++ ['-'.toUInt8] ++ level.bytes ++ ['|'.toUInt8,' '.toUInt8] ++
    format.bytes ++ ['\n'.toUInt8]

section Lines

variable (time level format : CString)

theorem line_length : (line time level format).length =
    time.bytes.length + level.bytes.length + format.bytes.length + 5 := by
  simp [line]
  omega

theorem logFormat_toList : logFormat.toList = ['|','%','s','-','%','s','|',' ','%','s','\n'] := by decide

theorem formatted_logFormat : formatted logFormat.toList [time,level,format] = line time level format := by
  rw [logFormat_toList]
  simp [formatted,line]

theorem line_noZero : 0 ∉ line time level format := by
  rw [← formatted_logFormat]
  exact formatted_noZero _ _ (by decide)

theorem snprintf_line {n : Nat} (b : Bytes n) (size : Nat) :
    (snprintf b size logFormat [time,level,format]).2 = (line time level format).length := by
  rw [snprintf,formatted_logFormat]

theorem stringAt_line {n : Nat} (b : Bytes n) (size : Nat) (positive : 0 < size) (fits : size ≤ n) :
    stringAt (snprintf b size logFormat [time,level,format]).1 = (line time level format).take (size - 1) := by
  have noZero := line_noZero time level format
  rw [← formatted_logFormat] at noZero
  rw [stringAt_snprintf b size positive fits logFormat _ noZero,formatted_logFormat]

variable {time} (e : LogCall) (found : e.localTime = some time)
include found

theorem passed_stack (short : UInt32.ofNat (line time level format).length < .ofNat bufferSize) :
    passed (writeMessage level format e).1 = [(line time level format).take 1023] := by
  simp only [writeMessage,found,getTimestamp,snprintf_line,if_pos short]
  simp only [UInt32.not_lt_zero,if_false,List.nil_append,passed,List.filterMap_cons,List.filterMap_nil]
  rw [stringAt_line time level format e.msg bufferSize (by decide) le_rfl]
  rfl

theorem passed_heap (long : ¬UInt32.ofNat (line time level format).length < .ofNat bufferSize) :
    let len := UInt32.ofNat (line time level format).length
    passed (writeMessage level format e).1 =
      [stringAt (snprintf (e.memory (len + 1).toNat) len.toNat logFormat [time,level,format]).1] := by
  rw [← snprintf_line time level format e.msg bufferSize] at long ⊢
  simp only [writeMessage,found,getTimestamp,if_neg long]
  cases e.localTimeAgain with
  | none | some again => simp [passed]

theorem passed_shorter (long : bufferSize ≤ (line time level format).length) :
    ∃ text, passed (writeMessage level format e).1 = [text] ∧ text.length < (line time level format).length := by
  have size : bufferSize = 1024 := rfl
  by_cases short : UInt32.ofNat (line time level format).length < .ofNat bufferSize
  · refine ⟨_,passed_stack level format e found short,?_⟩
    rw [List.length_take]
    omega
  · refine ⟨_,passed_heap level format e found short,?_⟩
    have positive : 1024 ≤ (UInt32.ofNat (line time level format).length).toNat := UInt32.not_lt.mp short
    have below : (UInt32.ofNat (line time level format).length).toNat ≤ (line time level format).length := by
      rw [UInt32.toNat_ofNat']
      exact Nat.mod_le _ _
    generalize UInt32.ofNat (line time level format).length = len at positive below
    by_cases room : len.toNat < (len + 1).toNat
    · rw [stringAt_line time level format _ len.toNat (by omega) room.le,List.length_take]
      omega
    · -- the size of the memory has wrapped to zero
      have most := length_stringAt_le (snprintf (e.memory (len + 1).toNat) len.toNat logFormat [time,level,format]).1
      have wraps : (len + 1).toNat = (len.toNat + 1) % 2 ^ 32 := UInt32.toNat_add len 1
      omega

/-- Below the width of a length, such a line loses its newline. -/
theorem passed_dropLast (long : bufferSize ≤ (line time level format).length)
    (narrow : (line time level format).length + 1 < 2 ^ 32) :
    passed (writeMessage level format e).1 = [(line time level format).dropLast] := by
  have size : bufferSize = 1024 := rfl
  have length : (UInt32.ofNat (line time level format).length).toNat = (line time level format).length := by
    rw [UInt32.toNat_ofNat']
    omega
  have above : ¬UInt32.ofNat (line time level format).length < .ofNat bufferSize := by
    rw [UInt32.not_lt,UInt32.le_iff_toNat_le,length]
    exact long
  have memory : (UInt32.ofNat (line time level format).length + 1).toNat = (line time level format).length + 1 := by
    rw [UInt32.toNat_add,length]
    simp
    omega
  rw [passed_heap level format e found above,stringAt_line time level format _ _ (by omega) (by omega),length,
    List.dropLast_eq_take]

theorem passed_line_iff : passed (writeMessage level format e).1 = [line time level format] ↔
    time.bytes.length + level.bytes.length + format.bytes.length + 5 < bufferSize := by
  rw [← line_length]
  constructor
  · intro whole
    by_contra long
    obtain ⟨text,passes,shorter⟩ := passed_shorter level format e found (Nat.not_lt.mp long)
    rw [passes,List.singleton_inj] at whole
    exact absurd (congrArg List.length whole) shorter.ne
  · intro fits
    have size : bufferSize = 1024 := rfl
    have short : UInt32.ofNat (line time level format).length < .ofNat bufferSize := by
      rw [UInt32.lt_iff_toNat_lt,UInt32.toNat_ofNat',UInt32.toNat_ofNat']
      omega
    rw [passed_stack level format e found short,List.take_of_length_le (by omega)]

end Lines

/-- The whole line is passed to `vprintf` exactly if it fits the buffer on the stack with
the zero at its end. -/
theorem writeMessage_whole_iff (time level format : CString) (e : LogCall) :
    passed (writeMessage level format {e with localTime := some time}).1 = [line time level format] ↔
      time.bytes.length + level.bytes.length + format.bytes.length + 5 < bufferSize :=
  passed_line_iff level format {e with localTime := some time} rfl

def shortTime : CString := .ofString "01/01/24|00:00:00"

theorem longLine_not_whole :
    let format : CString := ⟨List.replicate 997 'a'.toUInt8,by decide +kernel⟩
    let info := CString.ofString "INFO "
    let e : LogCall := ⟨some shortTime,none,fun _ => 0,fun _ _ => 0,fun _ => 0⟩
    (line shortTime info format).length = 1024 ∧
      passed (writeMessage info format e).1 = [(line shortTime info format).dropLast] ∧
      passed (writeMessage info format e).1 ≠ [line shortTime info format] := by
  intro format info e
  have length : (line shortTime info format).length = 1024 := by
    rw [line_length,List.length_replicate]
    rfl
  have passes : passed (writeMessage info format e).1 = [(line shortTime info format).dropLast] :=
    passed_dropLast info format e rfl length.ge (by omega)
  refine ⟨length,passes,?_⟩
  rw [passes,ne_eq,List.singleton_inj]
  intro whole
  have lengths := congrArg List.length whole
  rw [List.length_dropLast,length] at lengths
  omega

/-- A function of the log: the last level it writes at, and the name in its lines. -/
structure LogFunction where
  threshold : Loglevel
  level : CString

namespace LogFunction

def success : LogFunction := ⟨.debug,.ofString "SUCCS"⟩
def debug : LogFunction := ⟨.debug,.ofString "DEBUG"⟩
def log : LogFunction := ⟨.info,.ofString "INFO "⟩
def warning : LogFunction := ⟨.warning,.ofString "WARN "⟩
def error : LogFunction := ⟨.error,.ofString "ERROR"⟩
def statistic : LogFunction := ⟨.statistic,.ofString "STAT "⟩

def all : List LogFunction := [success,debug,log,warning,error,statistic]

def call (f : LogFunction) (loglevel : Loglevel) (format : CString) (e : LogCall) : List Printed :=
  if f.threshold.value < loglevel.value then [] else (writeMessage f.level format e).1

theorem level_length (f : LogFunction) (member : f ∈ all) : f.level.bytes.length = 5 := by
  revert f
  decide

/-- A function of the log that is not silenced passes whole lines on exactly for messages
that leave room for the time. -/
theorem call_whole_iff (f : LogFunction) (member : f ∈ all) (loglevel : Loglevel) (time format : CString)
    (e : LogCall) :
    passed (f.call loglevel format {e with localTime := some time}) = [line time f.level format] ↔
      loglevel.value ≤ f.threshold.value ∧ time.bytes.length + format.bytes.length ≤ 1013 := by
  have level := f.level_length member
  have size : bufferSize = 1024 := rfl
  rw [call]
  by_cases silent : f.threshold.value < loglevel.value
  · rw [if_pos silent]
    exact iff_of_false (List.cons_ne_nil _ _).symm fun both => absurd both.1 (Nat.not_le.mpr silent)
  · rw [if_neg silent,passed_line_iff f.level format {e with localTime := some time} rfl]
    omega

end LogFunction

end P2pStun
