import QueryConsole.Proofs.Flow.FrameSequence

/-
What stands at the front of the bytes that come: one of three things, and only one.

The bytes begin with a header that declares more than the limit (`Oversized`), or with the whole frame of a payload
within the limit (`Whole`), or they end inside a frame (`Cut`). None of the three mentions how frames are read. `front`
decides between them by the length of the bytes and the size that their first four declare, and `decode` answers by it.

Results:
- `front_eq_oversized_iff`, `front_eq_whole_iff`, `front_eq_cut_iff`: what `front` decides, so that the three exclude
  each other and leave nothing out.
- `decode_front`: the reference decoder answers by the front.
-/

namespace QueryConsole

namespace Frame

variable {limit size : Nat} {payload bytes : Bytes} {inflow : Inflow}

/-- the bytes begin with a header that declares `size` bytes, more than the limit -/
def Oversized (limit size : Nat) (bytes : Bytes) : Prop := limit < size ∧ size ≤ largest ∧ header size <+: bytes

/-- the bytes begin with the whole frame of a payload within the limit -/
def Whole (limit : Nat) (payload bytes : Bytes) : Prop :=
  payload.length ≤ limit ∧ ∃ frame, encode payload = .ok frame ∧ frame <+: bytes

/-- the bytes end inside a frame: before its header is complete, or inside the frame of a payload within the limit -/
def Cut (limit : Nat) (bytes : Bytes) : Prop :=
  bytes.length < headerSize ∨
    ∃ payload frame, payload.length ≤ limit ∧ encode payload = .ok frame ∧ bytes <+: frame ∧ bytes ≠ frame

/-- what stands at the front of some bytes -/
inductive Front where
  | oversized (size : Nat)
  | whole (payload : Bytes)
  | cut
deriving DecidableEq, Repr

/-- decide what stands at the front of some bytes -/
def front (limit : Nat) (bytes : Bytes) : Front :=
  let size := declared (bytes.take headerSize)
  if bytes.length < headerSize then .cut
  else if size > limit then .oversized size
  else if headerSize + size ≤ bytes.length then .whole ((bytes.drop headerSize).take size)
  else .cut

/-! ## Headers -/

/-- bytes that begin with a header are long enough for one, and declare its size -/
theorem declared_of_header (hsize : size ≤ largest) (h : header size <+: bytes) :
    headerSize ≤ bytes.length ∧ declared (bytes.take headerSize) = size := by
  obtain ⟨rest, rfl⟩ := h
  rw [List.length_append, length_header, ← length_header size, List.take_left, declared_header hsize]
  exact ⟨Nat.le_add_right _ _, rfl⟩

/-- bytes that are long enough begin with the header for the size that they declare -/
theorem begins_header (h : headerSize ≤ bytes.length) :
    header (declared (bytes.take headerSize)) <+: bytes ∧ declared (bytes.take headerSize) ≤ largest := by
  have hlength : (bytes.take headerSize).length = headerSize := List.length_take_of_le h
  rw [header_declared hlength]
  exact ⟨List.take_prefix _ _, declared_le hlength⟩

/-! ## The three fronts -/

theorem front_eq_oversized_iff : front limit bytes = .oversized size ↔ Oversized limit size bytes := by
  constructor
  · intro h
    simp only [front] at h
    split_ifs at h with hshort hlimit
    obtain rfl : declared (bytes.take headerSize) = size := by simpa using h
    obtain ⟨hheader, hlargest⟩ := begins_header (Nat.not_lt.1 hshort)
    exact ⟨hlimit, hlargest, hheader⟩
  · rintro ⟨hlimit, hlargest, hheader⟩
    obtain ⟨hlong, hdeclared⟩ := declared_of_header hlargest hheader
    rw [front, hdeclared, if_neg (Nat.not_lt.2 hlong), if_pos hlimit]

/-- bytes that begin with a whole frame: how long they are, what they declare, and the payload -/
theorem begins_of_iff (hlargest : payload.length ≤ largest) :
    of payload <+: bytes ↔ headerSize + payload.length ≤ bytes.length ∧
      declared (bytes.take headerSize) = payload.length ∧ (bytes.drop headerSize).take payload.length = payload := by
  constructor
  · rintro ⟨rest, rfl⟩
    have hheader : header payload.length <+: of payload ++ rest := ⟨payload ++ rest, by rw [of, List.append_assoc]⟩
    obtain ⟨-, hdeclared⟩ := declared_of_header hlargest hheader
    refine ⟨by rw [List.length_append, length_of]; omega, hdeclared, ?_⟩
    rw [of, List.append_assoc, ← length_header payload.length, List.drop_left, List.take_left]
  · rintro ⟨hlong, hdeclared, hpayload⟩
    have hlength : (bytes.take headerSize).length = headerSize := List.length_take_of_le (by omega)
    have hframe : bytes.take (headerSize + payload.length) = of payload := by
      calc bytes.take (headerSize + payload.length)
          = bytes.take headerSize ++ (bytes.drop headerSize).take payload.length := List.take_add
        _ = header (declared (bytes.take headerSize)) ++ payload := by rw [hpayload, header_declared hlength]
        _ = of payload := by rw [hdeclared, of]
    exact hframe ▸ List.take_prefix _ _

theorem whole_iff : Whole limit payload bytes ↔
    payload.length ≤ limit ∧ payload.length ≤ largest ∧ of payload <+: bytes := by
  simp only [Whole, encode_eq_ok_iff, and_assoc, exists_and_left, exists_eq_left]
  rfl

theorem front_eq_whole_iff : front limit bytes = .whole payload ↔ Whole limit payload bytes := by
  rw [whole_iff]
  constructor
  · intro h
    simp only [front] at h
    split_ifs at h with hshort hlimit hwhole
    obtain rfl : (bytes.drop headerSize).take (declared (bytes.take headerSize)) = payload := by simpa using h
    have hlength : ((bytes.drop headerSize).take (declared (bytes.take headerSize))).length =
        declared (bytes.take headerSize) := by
      rw [List.length_take, List.length_drop]
      omega
    have hlargest := (begins_header (Nat.not_lt.1 hshort)).2
    rw [begins_of_iff (by rwa [hlength]), hlength]
    exact ⟨Nat.not_lt.1 hlimit, hlargest, hwhole, rfl, rfl⟩
  · rintro ⟨hlimit, hlargest, hpart⟩
    obtain ⟨hlong, hdeclared, hpayload⟩ := (begins_of_iff hlargest).1 hpart
    rw [front, hdeclared, if_neg (by omega), if_neg (Nat.not_lt.2 hlimit), if_pos hlong, hpayload]

/-- bytes that declare more than there is are a strict front part of some frame of that size -/
theorem front_of_frame (hlong : headerSize ≤ bytes.length)
    (hmore : bytes.length < headerSize + declared (bytes.take headerSize)) :
    ∃ payload, payload.length = declared (bytes.take headerSize) ∧ bytes <+: of payload ∧ bytes ≠ of payload := by
  obtain ⟨⟨rest, hrest⟩, -⟩ := begins_header hlong
  set size := declared (bytes.take headerSize)
  have hcount : bytes.length = headerSize + rest.length := by rw [← hrest, List.length_append, length_header]
  -- what is missing may be anything: take zeros
  have hlength : (rest ++ List.replicate (size - rest.length) 0).length = size := by
    rw [List.length_append, List.length_replicate]
    omega
  refine ⟨rest ++ List.replicate (size - rest.length) 0, hlength, ⟨List.replicate (size - rest.length) 0, ?_⟩, ?_⟩
  · rw [of, hlength, ← List.append_assoc, hrest]
  · intro heq
    have := congrArg List.length heq
    rw [length_of, hlength] at this
    omega

/-- a strict front part of a frame that has its header declares more than there is -/
theorem declared_of_front (hlargest : payload.length ≤ largest) (hlong : headerSize ≤ bytes.length)
    (hpart : bytes <+: of payload) (hne : bytes ≠ of payload) :
    declared (bytes.take headerSize) = payload.length ∧ bytes.length < headerSize + payload.length := by
  obtain ⟨rest, hrest⟩ := hpart
  refine ⟨?_, ?_⟩
  · calc declared (bytes.take headerSize)
        = declared ((of payload).take headerSize) := by rw [← hrest, List.take_append_of_le_length hlong]
      _ = declared (header payload.length) := by rw [of, ← length_header payload.length, List.take_left]
      _ = payload.length := declared_header hlargest
  · have hlength := congrArg List.length hrest
    rw [List.length_append, length_of] at hlength
    have hrest' : rest ≠ [] := by
      rintro rfl
      exact hne (by simpa using hrest)
    have := List.length_pos_iff.2 hrest'
    omega

theorem front_eq_cut_iff : front limit bytes = .cut ↔ Cut limit bytes := by
  by_cases hshort : bytes.length < headerSize
  · exact iff_of_true (if_pos hshort) (.inl hshort)
  · have hlong := Nat.not_lt.1 hshort
    constructor
    · intro h
      simp only [front] at h
      split_ifs at h with hlimit hwhole
      obtain ⟨payload, hlength, hpart, hne⟩ := front_of_frame hlong (Nat.not_le.1 hwhole)
      have hlargest := (begins_header hlong).2
      rw [← hlength] at hlimit hlargest
      exact .inr ⟨payload, _, Nat.not_lt.1 hlimit, encode_eq_ok_iff.2 ⟨hlargest, rfl⟩, hpart, hne⟩
    · rintro (hlt | ⟨payload, frame, hlimit, hencode, hpart, hne⟩)
      · exact absurd hlt hshort
      · obtain ⟨hlargest, rfl⟩ := encode_eq_ok_iff.1 hencode
        obtain ⟨hdeclared, hlt⟩ := declared_of_front hlargest hlong hpart hne
        rw [front, hdeclared, if_neg hshort, if_neg (Nat.not_lt.2 hlimit), if_neg (Nat.not_le.2 hlt)]

/-! ## Decoding -/

/-- what is read at a front: the payload of a whole frame, and otherwise a failure that tells the front -/
inductive Reading (limit : Nat) : Front → Except LinkError Bytes → Prop
  | oversized (size : Nat) : Reading limit (.oversized size) (.error (.frameTooLarge size limit))
  | whole (payload : Bytes) : Reading limit (.whole payload) (.ok payload)
  | cut (ending : Option IoError) (phase : Phase) (expected received : Nat) :
    Reading limit .cut (.error (cutShort ending phase expected received))

theorem decode_front (limit : Nat) (coming : Coming) :
    Reading limit (front limit coming.bytes) (decode limit coming) := by
  simp only [front, decode]
  split_ifs
  · exact .cut _ _ _ _
  · exact .oversized _
  · exact .whole _
  · exact .cut _ _ _ _

/-- a stream that fails inside a frame is no invalid response -/
theorem class_cutShort (ending : Option IoError) (phase : Phase) (expected received : Nat) :
    (cutShort ending phase expected received).isTransport = true ∧
      (cutShort ending phase expected received).isProtocol = false := by
  cases ending <;> exact ⟨rfl, rfl⟩

end Frame

end QueryConsole
