import P2pStun.UdpSocket
import P2pStun.CNumbers

/-! What a normal runner does once it is connected: a thread of its own sends a greeting
every few seconds, and whatever arrives, from anyone, is logged and answered from then on. -/
namespace P2pStun
open ByteLayout CStrings Runs

structure Interface where
  address : Option SockaddrIn
  running : Bool
  loopback : Bool

def refreshOwnIpv4 (ownAddress : SockaddrIn) (interfaces : List Interface) : SockaddrIn :=
  (((interfaces.filter fun i => i.running && !i.loopback).filterMap (·.address)).find?
    (·.sinFamily = Endpoint.afInet)).getD ownAddress

def getOwnAddress (ownAddress : SockaddrIn) (interfaces : List Interface) : SockaddrIn :=
  if ownAddress.sinAddr = 0 then refreshOwnIpv4 ownAddress interfaces else ownAddress

def greetingFormat : String := "%s | Hi!"

/-- What `thread_hb` sends; `stack` is what its array held. -/
def hbMessage (ownAddress : SockaddrIn) (stack : Bytes 254) : Payload :=
  let (msg,len) := snprintf stack 254 greetingFormat [inetNtoa ownAddress.sinAddr]
  (List.ofFn msg).take (len + 1)

def greeting (addr : UInt32) : List UInt8 :=
  (inetNtoa addr).bytes ++ [' '.toUInt8,'|'.toUInt8,' '.toUInt8,'H'.toUInt8,'i'.toUInt8,'!'.toUInt8]

theorem greeting_length (addr : UInt32) : (greeting addr).length ≤ 21 := by
  have address : (inetNtoa addr).bytes.length ≤ 15 := dotted_length _ _ _ _
  simp only [greeting,List.length_append,List.length_cons,List.length_nil]
  omega

theorem greeting_noZero (addr : UInt32) : 0 ∉ greeting addr :=
  List.not_mem_append (inetNtoa addr).noZero (by decide)

theorem formatted_greeting (addr : UInt32) :
    formatted greetingFormat.toList [inetNtoa addr] = greeting addr := by
  rw [show greetingFormat.toList = ['%','s',' ','|',' ','H','i','!'] from by decide]
  simp [formatted,greeting]

/-- The greeting is sent whole, with the zero that ends it. -/
theorem hbMessage_eq (ownAddress : SockaddrIn) (stack : Bytes 254) :
    hbMessage ownAddress stack = greeting ownAddress.sinAddr ++ [0] := by
  have short := greeting_length ownAddress.sinAddr
  simp only [hbMessage,snprintf,formatted_greeting]
  rw [if_neg (by decide),List.take_of_length_le (show (greeting ownAddress.sinAddr).length ≤ 254 - 1 by omega),
    ofFn_overwrite _ _ (by simp; omega),List.take_append_of_le_length (by simp),
    List.take_of_length_le (by simp)]

theorem MessageType.ofCode_lt {c : UInt8} {t : MessageType} (known : ofCode c = some t) : c < 8 := by
  have same : t.code = c := by simpa using List.find?_some known
  rw [← same]
  cases t <;> decide

theorem type_greeting (addr : UInt32) : Payload.type (greeting addr ++ [0]) = none := by
  cases type : Payload.type (greeting addr ++ [0]) with
  | none => rfl
  | some t =>
    obtain ⟨first,starts,known⟩ := Option.bind_eq_some_iff.mp type
    have nonempty : (inetNtoa addr).bytes ≠ [] := dotted_ne_nil _ _ _ _
    have member : first ∈ (inetNtoa addr).bytes := by
      rw [greeting,List.append_assoc,List.head?_append_of_ne_nil _ nonempty] at starts
      exact List.mem_of_mem_head? starts
    have large : 46 ≤ first := dotted_bytes _ _ _ _ first member
    exact absurd (UInt8.lt_of_le_of_lt large (MessageType.ofCode_lt known)) (by decide)

structure Session where
  connection : UdpConnection
  msg : Payload

namespace Session

def start (socket : UdpSocket) (interfaces : List Interface) (stack : Bytes 254) : Session :=
  ⟨⟨socket⟩,hbMessage (getOwnAddress .zero interfaces) stack⟩

inductive Event
  | beat (sendOk : Bool)
  | hear (found : Except Payload Incoming) (input : Bytes 254)

inductive Output
  | sent (x : Outgoing)
  | logged (input : Bytes 254)

def target (s : Session) : SockaddrIn := s.connection.socket.targetAddress

def step : Machine Session Event Output := fun s e => match e with
  | .beat sendOk =>
    ({s with connection := (s.connection.call (.send s.msg sendOk)).1},
      (s.connection.call (.send s.msg sendOk)).2.map .sent)
  | .hear found input =>
    ({s with connection := (s.connection.call (.receive 254 found)).1},
      [.logged (overwrite input (s.connection.socket.receive 254 found).2.2)])

@[simp] theorem step_msg (s : Session) (e : Event) : (s.step e).1.msg = s.msg := by
  cases e <;> rfl

theorem beat_sent {s : Session} {sendOk : Bool} {o : Output} (member : o ∈ (s.step (.beat sendOk)).2) :
    ∃ handle, o = .sent ⟨handle,s.target,s.msg⟩ := by
  obtain ⟨x,sent,rfl⟩ := List.mem_map.mp member
  cases sendOk with
  | true => exact ⟨_,congrArg Output.sent (List.mem_singleton.mp sent)⟩
  | false => exact absurd sent List.not_mem_nil

theorem hear_target (s : Session) (payload : Payload) (source : Endpoint) (len : Nat) (input : Bytes 254)
    (whole : ReportsWhole len) :
    (s.step (.hear (recvfrom payload source len) input)).1.target = source.sockaddr := by
  rw [recvfrom_ok whole.2]
  exact partly_full _ _ _ _ whole.1

theorem hear_logged (s : Session) (payload : Payload) (source : Endpoint) (len : Nat) (input : Bytes 254) :
    (s.step (.hear (recvfrom payload source len) input)).2 = [.logged (overwrite input (payload.take 254))] := by
  rw [recvfrom]
  split <;> rfl

theorem hear_greeting (addr : UInt32) (input : Bytes 254) :
    stringAt (overwrite input ((greeting addr ++ [0]).take 254)) = greeting addr := by
  have short := greeting_length addr
  rw [List.take_of_length_le (by simp; omega)]
  exact stringAt_overwrite input _ (greeting_noZero addr) (by omega)

/-- A message of the protocol is logged from the code of its type on, or not at all. -/
theorem hear_message (payload : Payload) (input : Bytes 254) (typed : payload.type ≠ none) :
    ∀ c ∈ (stringAt (overwrite input (payload.take 254))).head?, c < 8 := by
  obtain ⟨t,known⟩ := Option.ne_none_iff_exists'.mp typed
  obtain ⟨first,starts,code⟩ := Option.bind_eq_some_iff.mp known
  obtain ⟨rest,rfl⟩ : ∃ rest, payload = first :: rest := List.head?_eq_some_iff.mp starts
  intro c member
  rw [overwrite_take] at member
  rw [head_stringAt _ c member]
  exact MessageType.ofCode_lt code

end Session

end P2pStun
