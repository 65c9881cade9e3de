import P2pStun.PlainRendezvous
import P2pStun.PsFiling

/-! What the server reads of a datagram. The receive buffer is neither cleared nor is
the number of bytes received looked at, so a short datagram is completed by what the
buffer held before. -/
namespace P2pStun.UdpServer
open ByteLayout Runs

def SameMaps (s t : UdpServer) : Prop :=
  s.transactionClientMap = t.transactionClientMap ∧
    s.psTransactionClientMap = t.psTransactionClientMap

/-- Whatever the buffer held before, the maps and the datagrams sent are the same. -/
def ReactsToBytes (d : Received) : Prop :=
  ∀ (s t : UdpServer) (f g : Option Message), SameMaps s t →
    SameMaps (handle s {d with fresh := f}).1 (handle t {d with fresh := g}).1 ∧
      (handle s {d with fresh := f}).2 = (handle t {d with fresh := g}).2

def TooShort (p : Payload) : Prop :=
  (p.type = some .psBindRequest ∨ p.type = some .bindRequest) ∧ p.length < 12

structure BytesOnly (d : Received) : Prop where
  reacts : ReactsToBytes d
  short : TooShort d.payload → ∀ s f, SameMaps (handle s {d with fresh := f}).1 s

theorem handle_congr {s t : UdpServer} {d e : Received} (maps : SameMaps s t)
    (source : d.source = e.source) (type : (s.buffer d).type = (t.buffer e).type)
    (request : (t.buffer e).type = some .psBindRequest → s.psRequest d = t.psRequest e) :
    SameMaps (handle s d).1 (handle t e).1 ∧ (handle s d).2 = (handle t e).2 := by
  obtain ⟨plain,scan⟩ := maps
  unfold handle
  rw [type,source]
  split
  · rename_i typed
    rw [scan,request typed]
    exact ⟨⟨plain,rfl⟩,rfl⟩
  · rw [plain]
    exact ⟨⟨rfl,scan⟩,rfl⟩
  · exact ⟨⟨plain,scan⟩,rfl⟩
  · exact ⟨⟨plain,scan⟩,rfl⟩

theorem buffer_nonempty (s : UdpServer) (d : Received) (nonempty : d.payload ≠ []) :
    (s.buffer d).type = d.payload.type :=
  Message.type_received _ _ nonempty

theorem reacts_of_long (d : Received) (nonempty : d.payload ≠ [])
    (long : d.payload.type = some .psBindRequest → 12 ≤ d.payload.length) : ReactsToBytes d := by
  intro s t f g maps
  have typeS := buffer_nonempty s {d with fresh := f} nonempty
  have typeT := buffer_nonempty t {d with fresh := g} nonempty
  apply handle_congr maps (d := {d with fresh := f}) (e := {d with fresh := g}) rfl
  · exact typeS.trans typeT.symm
  · intro typed
    rw [typeT] at typed
    have own : d.payload.transactionId =
        some (ntohl (Message.zero.received d.payload).transactionId) := by
      simp [Payload.transactionId,Message.received,long typed]
    have inS := Message.transactionId_received (f.getD s.msg) d.payload _ own
    have inT := Message.transactionId_received (g.getD t.msg) d.payload _ own
    simp only [psRequest,buffer,inS,inT]

theorem empty_not_reacts (d : Received) (empty : d.payload = []) : ¬ReactsToBytes d := by
  intro reacts
  have same := (reacts init init (some ackMessage) (some (Message.zero.setType .heartbeat)) ⟨rfl,rfl⟩).2
  simp [handle,buffer,empty,ackMessage] at same

theorem handle_scan_init {d : Received} (typed : (init.buffer d).type = some .psBindRequest) :
    (handle init d).1.psTransactionClientMap =
      Function.update (fun _ => none) (init.psRequest d).transactionId
        (some (.create d.source.sockaddr d.clock1)) := by
  have dead : live init.psTransactionClientMap (init.psRequest d) = none := rfl
  rw [(handle_scan typed).1,psHandle_opened dead]
  rfl

theorem transactionId_ne {b c : Message} (differ : b 11 ≠ c 11) :
    ntohl b.transactionId ≠ ntohl c.transactionId := by
  intro same
  have ids : b.transactionId = c.transactionId := by
    rw [← htonl_ntohl b.transactionId,same,htonl_ntohl]
  have bytes := congrFun (uint32.symm.injective ids) 3
  exact differ bytes

theorem short_not_reacts (d : Received) (typed : d.payload.type = some .psBindRequest)
    (short : d.payload.length < 12) : ¬ReactsToBytes d := by
  intro reacts
  have nonempty : d.payload ≠ [] := by
    intro empty
    simp [empty,Payload.type] at typed
  obtain ⟨⟨_,maps⟩,_⟩ := reacts init init (some Message.zero) (some (fun _ => 1)) ⟨rfl,rfl⟩
  have scanned (f : Option Message) := handle_scan_init
    ((buffer_nonempty init {d with fresh := f} nonempty).trans typed)
  rw [scanned,scanned] at maps
  have differ : (Message.zero.received d.payload) 11 ≠ (Message.received (fun _ => 1) d.payload) 11 := by
    rw [Message.received,overwrite_beyond _ _ 11 (by simp; omega),Message.received,
      overwrite_beyond _ _ 11 (by simp; omega)]
    decide
  have found := congrFun maps (ntohl (Message.zero.received d.payload).transactionId)
  rw [psRequest,buffer,Option.getD_some,Function.update_self,psRequest,buffer,Option.getD_some,
    Function.update_of_ne (transactionId_ne differ)] at found
  contradiction

theorem reactsToBytes_iff (d : Received) :
    ReactsToBytes d ↔
      d.payload ≠ [] ∧ (d.payload.type = some .psBindRequest → 12 ≤ d.payload.length) := by
  constructor
  · intro reacts
    refine ⟨fun empty => empty_not_reacts d empty reacts,?_⟩
    intro typed
    by_contra short
    exact short_not_reacts d typed (Nat.not_le.mp short) reacts
  · rintro ⟨nonempty,long⟩
    exact reacts_of_long d nonempty long

theorem plain_changes (d : Received) (typed : d.payload.type = some .bindRequest)
    (nonempty : d.payload ≠ []) : ¬SameMaps (handle init d).1 init := by
  rintro ⟨plain,_⟩
  rw [(handle_plain (by rw [buffer_nonempty _ _ nonempty,typed])).1] at plain
  have stored := congrFun plain 0
  simp [plainHandle,init] at stored

/-- The reaction to a datagram is one to its own bytes, and a request without an id
changes nothing, exactly when it is not empty and, if it is a request, has its id. -/
theorem bytesOnly_iff (d : Received) :
    BytesOnly d ↔ d.payload ≠ [] ∧
      (d.payload.type = some .psBindRequest ∨ d.payload.type = some .bindRequest →
        12 ≤ d.payload.length) := by
  constructor
  · rintro ⟨reacts,short⟩
    obtain ⟨nonempty,long⟩ := (reactsToBytes_iff d).mp reacts
    refine ⟨nonempty,?_⟩
    rintro (typed | typed)
    · exact long typed
    · by_contra few
      have kept := short ⟨Or.inr typed,Nat.not_le.mp few⟩ init d.fresh
      exact plain_changes d typed nonempty kept
  · rintro ⟨nonempty,long⟩
    refine ⟨(reactsToBytes_iff d).mpr ⟨nonempty,fun typed => long (Or.inl typed)⟩,?_⟩
    rintro ⟨typed,few⟩
    exact absurd (long typed) (Nat.not_le.mpr few)

def oneByteRequest : Received := ⟨.first,[2],⟨3,30⟩,0,0,none⟩

theorem oneByteRequest_not_bytesOnly : ¬BytesOnly oneByteRequest := by
  intro only
  exact short_not_reacts oneByteRequest (by decide) (by decide) only.reacts

end P2pStun.UdpServer
