import QueryConsole.Proofs.Flow.Entries
import QueryConsole.Proofs.Flow.InPlace

/-
No read of a frame goes outside its buffer, asks for nothing, or asks for bytes beyond the frame.

A buffer that is being filled holds what was received of its part of the frame, and ends with this part or, in a
payload, at most `step` bytes after what was received (`Holds`). From this follows what the next read is given. Reading
from any reader keeps it: one lemma for each way to come to a stage (`sound_grow`, `sound_filled`, `sound_next`), then
one read (`kept_advance`), then any number of them.

Results:
- `Holds.took`: what a read brings stands in the buffer after what was received before.
- `kept_after`: what holds after any number of reads.
- `reading_in_bounds`: what each read may be given, how long the buffer of a payload gets, how many reads there are, and
  that all of this is about `read`.
-/

namespace QueryConsole

/-! ## Counting reads -/

namespace Event

/-- the event is a read -/
def isRead : Event → Bool
  | read .. => true
  | _ => false

/-- the event is a read that brought bytes -/
def isDelivery : Event → Bool
  | read _ (.ok piece) => !piece.isEmpty
  | _ => false

theorem isDelivery_le (room : Nat) (answer : Except IoError Bytes) :
    (read room answer).isDelivery.toNat ≤ (read room answer).received.length := by
  rcases answer with cause | _ | ⟨b, piece⟩
  · exact Nat.le_refl _
  · exact Nat.le_refl _
  · exact Nat.succ_pos _

/-- a read brings bytes, or it is interrupted, or neither -/
theorem read_cases (room : Nat) (answer : Except IoError Bytes) :
    (read room answer).isDelivery.toNat + (read room answer).isInterrupted.toNat = 1 ∨
      ((read room answer).isDelivery = false ∧ (read room answer).isInterrupted = false) := by
  rcases answer with cause | _ | ⟨b, piece⟩
  · cases h : cause.retryable <;> simp [isDelivery, isInterrupted, h]
  · exact .inr ⟨rfl, rfl⟩
  · exact .inl rfl

end Event

namespace Trace

variable {trace : Trace}

/-- number of reads -/
def reads (trace : Trace) : Nat := trace.countP Event.isRead

/-- number of reads that brought bytes -/
def deliveries (trace : Trace) : Nat := trace.countP Event.isDelivery

/-- the reads of a trace, when `need` bytes are read: each brings some of them or is interrupted, except for one -/
structure ReadsFor (need : Nat) (trace : Trace) : Prop where
  deliveries : trace.deliveries ≤ need
  reads : trace.reads ≤ trace.deliveries + trace.interruptions + 1

/-- counts of reads pass over what has no read -/
theorem NoRead.counts (h : NoRead trace) : trace.reads = 0 ∧ trace.deliveries = 0 ∧ trace.interruptions = 0 := by
  simp only [reads, deliveries, interruptions, List.countP_eq_zero]
  refine ⟨fun e he => ?_, fun e he => ?_, fun e he => ?_⟩ <;> cases e with
  | read room got => exact absurd he (h room got)
  | _ => exact Bool.false_ne_true

/-- what one read adds, whatever follows it without a read -/
theorem NoRead.counts_after (h : NoRead trace) (past : Trace) (room : Nat) (answer : Except IoError Bytes) :
    received (past ++ [.read room answer] ++ trace) = received past ++ (Event.read room answer).received ∧
      reads (past ++ [.read room answer] ++ trace) = past.reads + 1 ∧
      deliveries (past ++ [.read room answer] ++ trace) =
        past.deliveries + (Event.read room answer).isDelivery.toNat ∧
      interruptions (past ++ [.read room answer] ++ trace) =
        past.interruptions + (Event.read room answer).isInterrupted.toNat := by
  obtain ⟨hreads, hdeliveries, hinterruptions⟩ := h.counts
  refine ⟨by simp [h.received_eq_nil], ?_, ?_, ?_⟩
  · simp only [reads] at hreads ⊢
    rw [List.countP_append, List.countP_append, hreads]
    rfl
  · simp only [deliveries] at hdeliveries ⊢
    rw [List.countP_append, List.countP_append, hdeliveries]
    cases hbrings : (Event.read room answer).isDelivery <;> simp [hbrings]
  · simp only [interruptions] at hinterruptions ⊢
    rw [List.countP_append, List.countP_append, hinterruptions]
    cases hmet : (Event.read room answer).isInterrupted <;> simp [hmet]

end Trace

namespace Frame

/-! ## What may be asked for -/

/-- how many bytes of payload there are to read, after some bytes of a frame: what its header declares, and none as long
as the header is not complete or if it declares more than the limit -/
def due (limit : Nat) (received : Bytes) : Nat := toRead limit (received.take headerSize)

/-- how much a read may ask for after some bytes of a frame: some of the header, or some of the payload, but no more
than `step` bytes of it -/
inductive Asked (limit : Nat) (received : Bytes) : Option Nat → Nat → Prop
  | header {room : Nat} (nonempty : 0 < room) (most : room ≤ headerSize - received.length) :
      Asked limit received none room
  | payload {room : Nat} (nonempty : 0 < room) (complete : headerSize ≤ received.length)
      (most : room ≤ min step (due limit received - (received.length - headerSize))) :
      Asked limit received (some (due limit received)) room

/-- how long the buffer of the payload may be after some bytes of a frame -/
def roomFor (limit : Nat) (received : Bytes) : Nat := min (due limit received) (received.length - headerSize + step)

/-- an event of reading a frame asks for no more than it may, for bytes or for room in the buffer of the payload -/
def Modest (limit : Nat) (before : Trace) : Event → Prop
  | .read room _ => ∃ size, Asked limit (Trace.received before) size room
  | .reserved size => size ≤ roomFor limit (Trace.received before)
  | _ => True

namespace InPlace

/-! ## What a buffer holds -/

variable {limit : Nat} {received : Bytes} {size : Option Nat} {f : Filling}

/-- a buffer that is being filled, and what it holds of the bytes received so far -/
inductive Holds (limit : Nat) (received : Bytes) : Option Nat → Filling → Prop
  | header {f : Filling} (length : f.buffer.length = headerSize) (start : f.start = 0) (idx : f.idx ≤ headerSize)
      (holds : received = f.buffer.take f.idx) : Holds limit received none f
  | payload {f : Filling} {size : Nat} (head : headerSize ≤ received.length)
      (declares : declared (received.take headerSize) = size) (accepted : size ≤ limit) (start : f.start < size)
      (length : f.buffer.length = f.start + growth size f.start) (idx : f.idx ≤ growth size f.start)
      (holds : received.drop headerSize = f.buffer.take (f.start + f.idx)) : Holds limit received (some size) f

/-- what a header declares fits in four bytes -/
theorem declared_le_largest (head : headerSize ≤ received.length) : declared (received.take headerSize) ≤ largest :=
  declared_le (List.length_take_of_le head)

theorem due_eq {size : Nat} (head : headerSize ≤ received.length) (declares : declared (received.take headerSize) = size)
    (accepted : size ≤ limit) : due limit received = size := by
  rw [due, toRead, declares, if_neg]
  rw [List.length_take_of_le head]
  omega

namespace Holds

theorem inside (h : Holds limit received size f) : f.start + f.idx ≤ f.buffer.length := by
  cases h with
  | header length start idx holds => omega
  | payload head declares accepted start length idx holds => omega

/-- the part that is being filled ends before the largest position -/
theorem want_le (h : Holds limit received size f) : f.start + f.want ≤ largest := by
  cases h with
  | header length start idx holds =>
    rw [Filling.want, length, start]
    decide
  | payload head declares accepted start length idx holds =>
    subst declares
    have hlargest := declared_le_largest head
    have hle := growth_le (declared (received.take headerSize)) f.start
    rw [Filling.want]
    omega

/-- the next read goes to the buffer right after what was received -/
theorem length_received (h : Holds limit received size f) :
    received.length = size.elim 0 (fun _ => headerSize) + (f.start + f.idx) := by
  have hinside := h.inside
  cases h with
  | header length start idx holds =>
    have hlen := congrArg List.length holds
    rw [List.length_take] at hlen
    simp only [Option.elim]
    omega
  | payload head declares accepted start length idx holds =>
    have hlen := congrArg List.length holds
    rw [List.length_drop, List.length_take] at hlen
    simp only [Option.elim]
    omega

/-- received is no more than belongs to the frame, and less as long as the buffer is not full -/
theorem length_le (h : Holds limit received size f) :
    received.length ≤ headerSize + due limit received ∧
      (f.idx < f.want → received.length < headerSize + due limit received) := by
  have hlen := h.length_received
  have hwant : f.want = f.buffer.length - f.start := rfl
  cases h with
  | header length start idx holds =>
    simp only [Option.elim] at hlen
    omega
  | payload head declares accepted start length idx holds =>
    obtain rfl := due_eq head declares accepted
    have hle := growth_le (due limit received) f.start
    simp only [Option.elim] at hlen
    omega

/-- what a read brings stands in the buffer after what was received before -/
theorem took (h : Holds limit received size f) {piece : Bytes} (hfits : piece.length ≤ f.want - f.idx) :
    Holds limit (received ++ piece) size (f.took piece) := by
  have hinside := h.inside
  have hwant : f.want = f.buffer.length - f.start := rfl
  have hlength : (f.put piece).length = f.buffer.length := length_overwrite (by omega)
  have htake : (f.put piece).take (f.start + f.idx + piece.length) = f.buffer.take (f.start + f.idx) ++ piece :=
    take_overwrite hinside
  cases h with
  | header length start idx holds =>
    refine .header (hlength.trans length) start ?_ ?_
    · simp only [Filling.took]
      omega
    · rw [start, Nat.zero_add] at htake
      rw [holds]
      exact htake.symm
  | payload head declares accepted start length idx holds =>
    refine .payload (by rw [List.length_append]; omega) ?_ accepted start (hlength.trans length) ?_ ?_
    · rwa [List.take_append_of_le_length head]
    · simp only [Filling.took]
      omega
    · rw [List.drop_append_of_le_length head, holds]
      simp only [Filling.took, ← Nat.add_assoc]
      exact htake.symm

end Holds

/-! ## The stages of a reading -/

/-- a stage that goes with the bytes received so far: none is broken -/
inductive Sound (limit : Nat) (received : Bytes) : Stage → Prop
  | filling {size : Option Nat} {f : Filling} (holds : Holds limit received size f) (room : f.idx < f.want) :
      Sound limit received (.filling size f)
  | whole {payload : Bytes} (frame : received.length = headerSize + due limit received)
      (holds : received.drop headerSize = payload) : Sound limit received (.ended (.ok payload))
  | failed (e : LinkError) (part : received.length ≤ headerSize + due limit received) :
      Sound limit received (.ended (.error e))

theorem sound_grow {size : Nat} {buffer : Bytes} (head : headerSize ≤ received.length)
    (declares : declared (received.take headerSize) = size) (accepted : size ≤ limit)
    (holds : received.drop headerSize = buffer) (hle : buffer.length ≤ size) :
    Sound limit received (grow size buffer).1 := by
  by_cases hmore : buffer.length < size
  · have hlargest := declared_le_largest head
    rw [grow_eq hmore (declares ▸ hlargest)]
    refine .filling (.payload head declares accepted hmore (length_grown size buffer) (Nat.zero_le _) ?_) ?_
    · rw [holds]
      exact (List.take_left' rfl).symm
    · have hpos := growth_pos hmore
      rw [Filling.want, length_grown]
      simp only [grown]
      omega
  · rw [grow, if_neg hmore]
    have hdue := due_eq head declares accepted
    have hlen := congrArg List.length holds
    rw [List.length_drop] at hlen
    exact .whole (by omega) holds

theorem sound_filled (h : Holds limit received size f) : Sound limit received (filled limit size f).1 := by
  have hpart := h.length_le.1
  cases h with
  | header length start idx holds =>
    rw [filled]
    split_ifs with hshort hlimit
    · exact .failed _ hpart
    · exact .failed _ hpart
    · obtain rfl : received = f.buffer := by
        rw [holds, List.take_of_length_le (by omega)]
      have hwhole : f.buffer.take headerSize = f.buffer := List.take_of_length_le length.le
      refine sound_grow length.ge (by rw [hwhole]) (Nat.not_lt.1 hlimit) ?_ (Nat.zero_le _)
      exact List.drop_of_length_le length.le
  | payload head declares accepted start length idx holds =>
    subst declares
    have hle := growth_le (declared (received.take headerSize)) f.start
    rw [filled]
    split_ifs with hshort
    · have hlargest := declared_le_largest head
      rw [add_eq (by omega), checked]
      exact .failed _ hpart
    · refine sound_grow head rfl accepted ?_ (by omega)
      rw [holds, List.take_of_length_le (by omega)]

theorem sound_goOn (h : Holds limit received size f) : Sound limit received (goOn limit size f).1 := by
  rw [goOn]
  split_ifs with hroom
  · exact .filling h hroom
  · exact sound_filled h

/-- a read with a fitting answer leads from a sound stage to a sound one -/
theorem sound_next (h : Holds limit received size f) (hroom : f.idx < f.want) {room : Nat}
    {answer : Except IoError Bytes} (hfits : ∀ piece, answer = .ok piece → piece.length ≤ f.want - f.idx) :
    Sound limit (received ++ (Event.read room answer).received) (next limit size f answer).1 := by
  rcases answer with cause | _ | ⟨b, piece⟩
  · simp only [Event.received, List.append_nil]
    by_cases again : cause.retryable = true
    · rw [next_retry again]
      exact .filling h hroom
    · rw [next_failure again]
      exact .failed _ h.length_le.1
  · simp only [Event.received, List.append_nil]
    exact sound_filled h
  · have hlen := hfits _ rfl
    have hlargest := h.want_le
    rw [next_bytes (by omega)]
    exact sound_goOn (h.took hlen)

/-- a buffer that is not full when the peer has closed its side ends the reading -/
theorem filled_short (h : Holds limit received size f) (hroom : f.idx < f.want) :
    ∃ answer, (filled limit size f).1 = .ended answer := by
  have hwant : f.want = f.buffer.length - f.start := rfl
  have hlargest := h.want_le
  cases h with
  | header length start idx holds =>
    rw [filled, if_pos (by omega)]
    exact ⟨_, rfl⟩
  | payload head declares accepted start length idx holds =>
    rw [filled, if_pos (by omega), add_eq (by omega), checked]
    exact ⟨_, rfl⟩

/-- a read that neither brings bytes nor is interrupted ends the reading -/
theorem ended_next (h : Holds limit received size f) (hroom : f.idx < f.want) {room : Nat}
    {answer : Except IoError Bytes} (hbrings : (Event.read room answer).isDelivery = false)
    (hmet : (Event.read room answer).isInterrupted = false) :
    ∃ answer', (next limit size f answer).1 = .ended answer' := by
  rcases answer with cause | _ | ⟨b, piece⟩
  · rw [next_failure (Bool.eq_false_iff.1 hmet)]
    exact ⟨_, rfl⟩
  · exact filled_short h hroom
  · cases hbrings

/-! ## What a sound stage allows -/

/-- what a reading may do next, after some bytes: read into a slice that lies inside its buffer and asks for no more
than it may; or nothing, once it has ended. There is no rule for a broken one. -/
inductive Allowed (limit : Nat) (received : Bytes) : Stage → Prop
  | filling {size : Option Nat} {f : Filling} {room : Nat} (slice : f.slice = .ok room)
      (inside : f.start + f.idx + room ≤ f.buffer.length) (asked : Asked limit received size room) :
      Allowed limit received (.filling size f)
  | ended (answer : Except LinkError Bytes) : Allowed limit received (.ended answer)

/-- how long the buffer of the payload is -/
def Stage.held : Stage → Nat
  | .filling (some _) f => f.buffer.length
  | .ended (.ok payload) => payload.length
  | _ => 0

theorem Holds.asked (h : Holds limit received size f) (hroom : f.idx < f.want) :
    Asked limit received size (f.want - f.idx) := by
  have hlen := h.length_received
  have hwant : f.want = f.buffer.length - f.start := rfl
  cases h with
  | header length start idx holds =>
    simp only [Option.elim] at hlen
    exact .header (by omega) (by omega)
  | payload head declares accepted start length idx holds =>
    obtain rfl := due_eq head declares accepted
    simp only [Option.elim] at hlen
    rw [growth] at length
    exact .payload (by omega) head (by omega)

namespace Sound

variable {stage : Stage}

theorem allowed (h : Sound limit received stage) : Allowed limit received stage := by
  cases h with
  | filling holds hroom =>
    have hinside := holds.inside
    refine .filling (Filling.slice_eq hinside) ?_ (holds.asked hroom)
    rw [Filling.want]
    omega
  | whole frame holds => exact .ended _
  | failed e part => exact .ended _

theorem held_le (h : Sound limit received stage) : stage.held ≤ roomFor limit received := by
  cases h with
  | filling holds hroom =>
    have hlen := holds.length_received
    cases holds with
    | header length start idx holds => exact Nat.zero_le _
    | payload head declares accepted start length idx holds =>
      obtain rfl := due_eq head declares accepted
      simp only [Option.elim] at hlen
      rw [growth] at length
      rw [roomFor, Stage.held]
      omega
  | whole frame holds =>
    have hlen := congrArg List.length holds
    rw [List.length_drop] at hlen
    rw [roomFor, Stage.held]
    omega
  | failed e part => exact Nat.zero_le _

/-- received is no more than belongs to the frame, and less as long as the reading goes on -/
theorem length_le (h : Sound limit received stage) :
    received.length ≤ headerSize + due limit received ∧
      ((∃ answer, stage = .ended answer) ∨
        (∃ size f, stage = .filling size f) ∧ received.length < headerSize + due limit received) := by
  cases h with
  | filling holds hroom => exact ⟨holds.length_le.1, .inr ⟨⟨_, _, rfl⟩, holds.length_le.2 hroom⟩⟩
  | whole frame holds => exact ⟨frame.le, .inl ⟨_, rfl⟩⟩
  | failed e part => exact ⟨part, .inl ⟨_, rfl⟩⟩

end Sound

/-! ## What the buffer grows to -/

theorem reserved_checked {position : Except Fault Nat} {follow : Nat → Stage × Trace} {n : Nat}
    (hfollow : ∀ m, .reserved n ∈ (follow m).2 → n = (follow m).1.held)
    (h : .reserved n ∈ (checked position follow).2) : n = (checked position follow).1.held := by
  cases position with
  | ok m => exact hfollow m h
  | error fault => exact absurd h List.not_mem_nil

theorem not_reserved_fail {n : Nat} (e : LinkError) : .reserved n ∉ (fail e).2 := by simp [fail]

theorem reserved_grow {size n : Nat} {buffer : Bytes} (h : .reserved n ∈ (grow size buffer).2) :
    n = (grow size buffer).1.held := by
  rw [grow] at h ⊢
  split_ifs at h ⊢
  · rw [add] at h ⊢
    split_ifs at h ⊢
    · obtain rfl : n = buffer.length + growth size buffer.length := by simpa [checked] using h
      simp [checked, Stage.held]
    · exact absurd h List.not_mem_nil
  · exact absurd h List.not_mem_nil

theorem reserved_filled {n : Nat} (h : .reserved n ∈ (filled limit size f).2) :
    n = (filled limit size f).1.held := by
  cases size with
  | none =>
    rw [filled] at h ⊢
    split_ifs at h ⊢
    · exact absurd h (not_reserved_fail _)
    · exact absurd h (not_reserved_fail _)
    · exact reserved_grow h
  | some size =>
    rw [filled] at h ⊢
    split_ifs at h ⊢
    · exact reserved_checked (fun m hm => absurd hm (not_reserved_fail _)) h
    · exact reserved_grow h

/-- what a read leads to reserves room for the buffer that it leads to -/
theorem reserved_next {answer : Except IoError Bytes} {n : Nat} (h : .reserved n ∈ (next limit size f answer).2) :
    n = (next limit size f answer).1.held := by
  rcases answer with cause | _ | ⟨b, piece⟩
  · rw [next] at h ⊢
    split_ifs at h ⊢
    · simp at h
    · exact absurd h (not_reserved_fail _)
  · exact reserved_filled h
  · refine reserved_checked (fun idx hidx => ?_) h
    rw [goOn] at hidx ⊢
    split_ifs at hidx ⊢
    · exact absurd hidx List.not_mem_nil
    · exact reserved_filled hidx

/-- a read asks for no more than it may, and so does what it leads to -/
theorem modest_read {past : Trace} (h : Holds limit (Trace.received past) size f) (hroom : f.idx < f.want)
    {answer : Except IoError Bytes} (hfits : ∀ piece, answer = .ok piece → piece.length ≤ f.want - f.idx) :
    Trace.Each (Modest limit) past ([.read (f.want - f.idx) answer] ++ (next limit size f answer).2) := by
  have hquiet := noRead_next limit size f answer
  have hheld : (next limit size f answer).1.held ≤
      roomFor limit (Trace.received past ++ (Event.read (f.want - f.idx) answer).received) :=
    (sound_next h hroom hfits).held_le
  apply Trace.Each.append
  · intro before e hnext
    rcases Trace.next_cons hnext with ⟨rfl, rfl⟩ | ⟨mid, rfl, hmid⟩
    · rw [List.append_nil]
      exact ⟨size, h.asked hroom⟩
    · exact absurd hmid (by simp)
  · intro before e hnext
    have hmem : e ∈ (next limit size f answer).2 := hnext.subset (by simp)
    have hnone : Trace.received before = [] := by
      apply Trace.NoRead.received_eq_nil
      intro room got hbefore
      exact hquiet room got (hnext.subset (by simp [hbefore]))
    cases e with
    | read room got => exact absurd hmem (hquiet room got)
    | reserved n =>
      rw [Modest, reserved_next hmem, Trace.received_append, Trace.received_append, hnone, List.append_nil]
      simpa using hheld
    | _ => trivial

/-! ## Any number of reads -/

variable {σ : Type} {n : Nat} {p : Progress σ}

/-- what holds of a reading after `n` reads -/
structure Kept (limit n : Nat) (p : Progress σ) : Prop where
  sound : Sound limit (Trace.received p.trace) p.stage
  modest : Trace.Each (Modest limit) [] p.trace
  brought : p.trace.deliveries ≤ (Trace.received p.trace).length
  reads : p.trace.reads ≤ p.trace.deliveries + p.trace.interruptions + 1
  /-- a reading that goes on has only met bytes and interruptions, and made each read -/
  running : ∀ size f, p.stage = .filling size f →
    p.trace.reads = p.trace.deliveries + p.trace.interruptions ∧ n = p.trace.reads

theorem kept_start (limit : Nat) (s : σ) : Kept limit 0 (⟨.filling none (empty headerSize), s, []⟩ : Progress σ) where
  sound := .filling (.header rfl rfl (Nat.zero_le _) rfl) (by decide)
  modest before e hnext := absurd hnext (by simp)
  brought := Nat.le_refl _
  reads := Nat.zero_le _
  running _ _ _ := ⟨rfl, rfl⟩

theorem kept_advance (reader : Reader σ) (h : Kept limit n p) : Kept limit (n + 1) (advance reader limit p) := by
  rcases advance_cases reader limit p with ⟨size, f, room, answer, later, hstage, hslice, met, hstep⟩ |
      ⟨size, f, fault, hstage, hslice, -⟩ | ⟨hstage, hstep⟩
  · obtain ⟨hsound, hmodest, hbrought, hreads, hrunning⟩ := h
    obtain ⟨hgone, hn⟩ := hrunning size f hstage
    rw [hstage] at hsound
    obtain ⟨hholds, hroom⟩ : Holds limit (Trace.received p.trace) size f ∧ f.idx < f.want := by
      cases hsound with
      | filling holds room => exact ⟨holds, room⟩
    obtain rfl : f.want - f.idx = room := by
      rw [Filling.slice_eq hholds.inside] at hslice
      exact Except.ok.inj hslice
    have hfits : ∀ piece, answer = .ok piece → piece.length ≤ f.want - f.idx := by
      rintro piece rfl
      exact reader.fits met
    have hnext : Sound limit (Trace.received p.trace ++ (Event.read (f.want - f.idx) answer).received)
        (next limit size f answer).1 := sound_next hholds hroom hfits
    obtain ⟨hreceived, hread, hdelivery, hinterruption⟩ :=
      (noRead_next limit size f answer).counts_after p.trace (f.want - f.idx) answer
    have hbrings := Event.isDelivery_le (f.want - f.idx) answer
    rw [hstep]
    -- what a read leads to reads nothing, so bytes and counts change by this one read
    refine ⟨?_, ?_, ?_, ?_, fun size' f' hgoes => ?_⟩ <;> simp only [enter, hreceived, hread, hdelivery, hinterruption]
    · exact hnext
    · rw [List.append_assoc]
      exact hmodest.append (modest_read hholds hroom hfits)
    · rw [List.length_append]
      omega
    · omega
    · rcases Event.read_cases (f.want - f.idx) answer with hone | ⟨hnone, hmet⟩
      · omega
      · obtain ⟨answer', hended⟩ := ended_next hholds hroom hnone hmet
        simp only [enter, hended] at hgoes
        cases hgoes
  · have hsound := h.sound
    rw [hstage] at hsound
    cases hsound with
    | filling holds room =>
      rw [Filling.slice_eq holds.inside] at hslice
      cases hslice
  · rw [hstep]
    exact ⟨h.sound, h.modest, h.brought, h.reads, fun size f heq => absurd heq (hstage size f)⟩

/-- whatever the reader answers, a reading keeps to its invariant -/
theorem kept_after (reader : Reader σ) (limit : Nat) (s : σ) (n : Nat) : Kept limit n (after reader limit s n) := by
  induction n with
  | zero => exact kept_start limit s
  | succ n ih =>
    rw [after_succ]
    exact kept_advance reader ih

end InPlace

/-- **No read goes outside its buffer or asks for nothing, and no header makes the buffer grow ahead of its bytes.**
What `read` does, on any inflow, is what reading in place does: at each event it asks for no more than it may, for bytes
and for room in the buffer of the payload.
Let any reader answer the reads, with any bytes that fit, interruptions and failures. After `n` of them no position has
overflowed and no slice begins outside; the next read, if there is one, is given a slice that is not empty, lies inside
its buffer and asks for no more than it may; the buffer of the payload is no longer than the payload, and at most `step`
bytes longer than what was received of it; each read brought bytes of the frame or was interrupted, except for one; the
reading has ended by the time that `n` comes to the bytes of the frame and the interruptions; and all this is the
beginning of what `read` does. -/
theorem reading_in_bounds (limit : Nat) :
    (∀ inflow : Inflow,
      let r := read limit inflow
      Trace.Each (Modest limit) [] r.trace ∧
      r.trace.ReadsFor (headerSize + due limit (Trace.received r.trace)) ∧
      ∃ n, InPlace.after Inflow.reader limit inflow n = ⟨.ended r.answer, r.state, r.trace⟩) ∧
    ∀ (σ : Type) (reader : Reader σ) (s : σ) (n : Nat),
      let p := InPlace.after reader limit s n
      let received := Trace.received p.trace
      InPlace.Allowed limit received p.stage ∧
      p.stage.held ≤ roomFor limit received ∧
      p.trace.ReadsFor (headerSize + due limit received) ∧
      ((∃ answer, p.stage = .ended answer) ∨ n < headerSize + due limit received + p.trace.interruptions) ∧
      p.trace <+: (read limit { arrivals := Trace.arrivals p.trace }).trace := by
  constructor
  · intro inflow r
    obtain ⟨n, hread⟩ := InPlace.comes_to_read limit inflow
    have hkept := InPlace.kept_after Inflow.reader limit inflow n
    rw [hread] at hkept
    obtain ⟨hpart, -⟩ := hkept.sound.length_le
    exact ⟨hkept.modest, ⟨hkept.brought.trans hpart, hkept.reads⟩, n, hread⟩
  · intro σ reader s n p received
    have hkept : InPlace.Kept limit n p := InPlace.kept_after reader limit s n
    have hsound : InPlace.Sound limit received p.stage := hkept.sound
    have hbrought : p.trace.deliveries ≤ received.length := hkept.brought
    obtain ⟨hpart, hends⟩ := hsound.length_le
    refine ⟨hsound.allowed, hsound.held_le, ⟨hbrought.trans hpart, hkept.reads⟩, ?_,
      InPlace.begins_read reader limit s n⟩
    rcases hends with hended | ⟨⟨size, f, hstage⟩, hmore⟩
    · exact .inl hended
    · obtain ⟨hreads, hn⟩ := hkept.running size f hstage
      exact .inr (by omega)

end Frame

end QueryConsole
