import QueryConsole.Proofs.Flow.Replay

/-
The frames of texts, and reading them from a peer that writes nothing else.

On a stream that neither ends nor fails, a read goes on until it has the frame it needs. If what it meets is the front
of the frame of a reply, it has met that frame and no byte of the next.

Results:
- `encode_ofText`, `declared_ofText`: the frame of a text, and the length that it declares.
- `read_reply`: the frame of a reply is read whole, or refused for its size.
- `read_waits`: as long as a read goes on, the frame is not there yet.
-/

namespace QueryConsole

namespace Frame

/-- the frame of a text that is not too long for one -/
def ofText (text : String) : Bytes := header (Utf8.encode text).length ++ Utf8.encode text

theorem encode_ofText {text : String} (h : (Utf8.encode text).length ≤ largest) :
    encode (Utf8.encode text) = .ok (ofText text) :=
  encode_eq_ok_iff.2 ⟨h, rfl⟩

theorem length_ofText (text : String) : (ofText text).length = headerSize + (Utf8.encode text).length := by
  rw [ofText, List.length_append, length_header]

/-- what starts with the frame of a text declares the length of the text -/
theorem declared_ofText {text : String} (h : (Utf8.encode text).length ≤ largest) (rest : Bytes) :
    declared ((ofText text ++ rest).take headerSize) = (Utf8.encode text).length := by
  rw [ofText, List.append_assoc, ← length_header, List.take_left, declared_header h]

/-! ## Reading the frame of a reply -/

variable {limit : Nat} {inflow : Inflow} {reply : String} {rest : Bytes}

/-- what a frame is read from begins with what has been read of it -/
theorem take_of_prefix_received {part : Bytes} (h : part <+: Trace.received (read limit inflow).trace) :
    inflow.coming.bytes.take part.length = part := by
  rw [(consumes_read limit inflow).received] at h
  have hpart : part <+: inflow.coming.bytes := h.trans (List.take_prefix _ _)
  exact (List.prefix_iff_eq_take.1 hpart).symm

/-- bytes that agree with the frame of a reply on its header declare the length of the reply -/
theorem declared_of_take {bytes : Bytes} {n : Nat} (hn : headerSize ≤ n)
    (hlarge : (Utf8.encode reply).length ≤ largest) (h : bytes.take n = (ofText reply ++ rest).take n) :
    declared (bytes.take headerSize) = (Utf8.encode reply).length := by
  have hfour : bytes.take headerSize = (ofText reply ++ rest).take headerSize := by
    calc bytes.take headerSize = (bytes.take n).take headerSize := by rw [List.take_take, Nat.min_eq_left hn]
      _ = ((ofText reply ++ rest).take n).take headerSize := by rw [h]
      _ = (ofText reply ++ rest).take headerSize := by rw [List.take_take, Nat.min_eq_left hn]
  rw [hfour, declared_ofText hlarge]

/-- a read that is never left without bytes meets more than none -/
theorem header_le_received (hall : ∀ e ∈ (read limit inflow).trace, e.Delivers) :
    headerSize ≤ (Trace.received (read limit inflow).trace).length := by
  have henough := (consumes_read limit inflow).enough hall
  rw [(consumes_read limit inflow).received, List.length_take_of_le henough]
  exact Nat.le_add_right _ _

/-- **Reading a reply.** A read that meets the front of the frame of a reply takes it whole, or refuses it for its
size. -/
theorem read_reply (hall : ∀ e ∈ (read limit inflow).trace, e.Delivers)
    (hlarge : (Utf8.encode reply).length ≤ largest)
    (hmet : Trace.received (read limit inflow).trace <+: ofText reply ++ rest) :
    ((Utf8.encode reply).length ≤ limit →
      (read limit inflow).answer = .ok (Utf8.encode reply) ∧
        Trace.received (read limit inflow).trace = ofText reply) ∧
    (limit < (Utf8.encode reply).length →
      (read limit inflow).answer = .error (.frameTooLarge (Utf8.encode reply).length limit)) := by
  have henough := (consumes_read limit inflow).enough hall
  have hreceived := (consumes_read limit inflow).received
  have hheader : headerSize ≤ inflow.coming.bytes.length := (Nat.le_add_right _ _).trans henough
  rw [hreceived] at hmet
  have hsame : inflow.coming.bytes.take (extent limit inflow.coming) =
      (ofText reply ++ rest).take (extent limit inflow.coming) := by
    have := List.prefix_iff_eq_take.1 hmet
    rwa [List.length_take_of_le henough] at this
  have hdeclared := declared_of_take (Nat.le_add_right _ _) hlarge hsame
  refine ⟨fun hlimit => ?_, fun hlimit => ?_⟩
  · rw [extent_whole hheader (hdeclared ▸ hlimit), hdeclared, ← length_ofText] at hsame hreceived henough
    rw [List.take_left] at hsame
    have hpayload : (inflow.coming.bytes.drop headerSize).take (Utf8.encode reply).length = Utf8.encode reply := by
      have := congrArg (List.drop headerSize) hsame
      rw [List.drop_take, length_ofText, Nat.add_sub_cancel_left] at this
      rw [this, ofText, ← length_header (Utf8.encode reply).length, List.drop_left]
    refine ⟨?_, hreceived.trans hsame⟩
    rw [length_ofText] at henough
    rw [answer_read, decode, if_neg (Nat.not_lt.2 hheader), hdeclared, if_neg (Nat.not_lt.2 hlimit), if_pos henough,
      hpayload]
  · rw [answer_read, decode, if_neg (Nat.not_lt.2 hheader), hdeclared, if_pos hlimit]

/-- as long as a read goes on, the frame of a reply is not there yet -/
theorem read_waits {mid : Trace} {room : Nat} {got : Except IoError Bytes}
    (hnext : mid ++ [.read room got] <+: (read limit inflow).trace) (hlarge : (Utf8.encode reply).length ≤ largest)
    (hlimit : (Utf8.encode reply).length ≤ limit) : Trace.received mid ≠ ofText reply := by
  intro hwhole
  obtain ⟨after, htrace⟩ := hnext
  have hreads := (consumes_read limit inflow).reads mid room got after (by simpa using htrace.symm)
  have hpart : Trace.received mid <+: Trace.received (read limit inflow).trace := by
    rw [← htrace]
    exact ⟨_, by rw [List.append_assoc, Trace.received_append]⟩
  have hsame := take_of_prefix_received hpart
  rw [hwhole] at hsame hreads
  have hlength := congrArg List.length hsame
  have hagree : inflow.coming.bytes.take (ofText reply).length = (ofText reply ++ []).take (ofText reply).length := by
    rw [hsame, List.take_left]
  have hdeclared := declared_of_take (length_ofText reply ▸ Nat.le_add_right _ _) hlarge hagree
  rw [List.length_take, length_ofText] at hlength
  rw [extent_whole (by omega) (hdeclared ▸ hlimit), hdeclared, length_ofText] at hreads
  omega

end Frame

end QueryConsole
