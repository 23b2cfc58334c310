import QueryConsole.Proofs.Flow.FrameDecoding

/-
Frames one after the other, on a stream that may be cut anywhere.

Somebody who reads frame after frame gets the payloads of exactly those frames that end at or before the cut
(`endingBy`). The read after them fails, and its failure tells the place of the cut: the phase it is in, and how far
into that phase (`Locates`).

Results:
- `read_whole`, `read_cut`: a read that finds a whole frame, and one that finds the front of a frame.
- `reads_cut`: reading a stream that is cut.
- `frames_at_cut`: the same for every cut, with the converse: what is read as a payload was the frame of it.
-/

namespace QueryConsole

namespace Frame

variable {limit c : Nat} {inflow : Inflow} {p rest : Bytes} {payloads frames : List Bytes}

/-- the frame of a payload that is not too long for one -/
def of (payload : Bytes) : Bytes := header payload.length ++ payload

theorem length_of (p : Bytes) : (of p).length = headerSize + p.length := by
  rw [of, List.length_append, length_header]

theorem map_encode (h : ∀ p ∈ payloads, p.length ≤ largest) : payloads.map encode = (payloads.map of).map .ok := by
  rw [List.map_map]
  exact List.map_congr_left fun p hp => encode_eq_ok_iff.2 ⟨h p hp, rfl⟩

/-! ## One read -/

/-- what begins with the header of a frame declares the length of its payload -/
theorem declared_take_of {n : Nat} (hn : headerSize ≤ n) (hlarge : p.length ≤ largest) (rest : Bytes) :
    declared (((of p ++ rest).take n).take headerSize) = p.length := by
  rw [List.take_take, Nat.min_eq_left hn, of, List.append_assoc, ← length_header p.length, List.take_left,
    declared_header hlarge]

/-- a read that finds a whole frame hands its payload over and leaves what comes after it -/
theorem read_whole (hlarge : p.length ≤ largest) (hlimit : p.length ≤ limit) {ending : Option IoError}
    (hcoming : inflow.coming = ⟨of p ++ rest, ending⟩) :
    (read limit inflow).answer = .ok p ∧ (read limit inflow).state.coming = ⟨rest, ending⟩ := by
  have hlen := length_of p
  have hdeclared := declared_take_of (Nat.le_add_right headerSize p.length) hlarge rest
  rw [List.take_take, Nat.min_eq_left (Nat.le_add_right _ _)] at hdeclared
  have hheader : headerSize ≤ (of p ++ rest).length := by rw [List.length_append]; omega
  have hwhole : headerSize + p.length ≤ (of p ++ rest).length := by rw [List.length_append]; omega
  have hleft := (consumes_read limit inflow).left
  rw [hcoming, extent_whole hheader (by rwa [hdeclared]), hdeclared] at hleft
  refine ⟨?_, (hleft hwhole).trans ?_⟩
  · rw [answer_read, hcoming, decode, if_neg (Nat.not_lt.2 hheader), hdeclared, if_neg (Nat.not_lt.2 hlimit),
      if_pos hwhole, of, List.append_assoc, ← length_header p.length, List.drop_left, List.take_left]
  · rw [Coming.drop, ← hlen, List.drop_left]

/-- a read that finds the front of a frame, and then the end, tells how far the front reaches -/
theorem read_cut (hlarge : p.length ≤ largest) (hlimit : p.length ≤ limit) (hc : c < (of p).length)
    (hcoming : inflow.coming = ⟨(of p ++ rest).take c, none⟩) :
    (read limit inflow).answer = .error
      (if c < headerSize then .connectionLost .header headerSize c
      else .connectionLost .payload p.length (c - headerSize)) := by
  have hlen : ((of p ++ rest).take c).length = c := by
    rw [List.length_take, List.length_append]
    omega
  rw [length_of] at hc
  rw [answer_read, hcoming, decode, hlen]
  by_cases hshort : c < headerSize
  · rw [if_pos hshort, if_pos hshort]
    rfl
  · rw [if_neg hshort, if_neg hshort, declared_take_of (Nat.not_lt.1 hshort) hlarge rest,
      if_neg (Nat.not_lt.2 hlimit), if_neg (Nat.not_le.2 hc)]
    rfl

/-! ## A stream that is cut -/

/-- how many frames of a stream end at or before its first `c` bytes do -/
def endingBy (c : Nat) (frames : List Bytes) : Nat := frames.inits.tail.countP fun done => done.flatten.length ≤ c

/-- a failure tells that its stream was cut after `c` bytes, of which `k` whole frames are behind -/
def Locates (payloads frames : List Bytes) (k c : Nat) (e : LinkError) : Prop :=
  ∃ phase expected received, e = .connectionLost phase expected received ∧ received < expected ∧
    match phase with
    | .header => expected = headerSize ∧ (frames.take k).flatten.length + received = c
    | .payload => (∃ p, payloads[k]? = some p ∧ expected = p.length) ∧
        (frames.take k).flatten.length + headerSize + received = c

/-- the frames after one that ends in time are counted from its end -/
theorem endingBy_cons {f : Bytes} (h : f.length ≤ c) (frames : List Bytes) :
    endingBy c (f :: frames) = endingBy (c - f.length) frames + 1 := by
  have hinits : frames.inits = [] :: frames.inits.tail := by cases frames <;> rfl
  have hsame : ∀ done : List Bytes, (f :: done).flatten.length ≤ c ↔ done.flatten.length ≤ c - f.length := by
    intro done
    rw [List.flatten_cons, List.length_append]
    omega
  rw [endingBy, endingBy, List.inits_cons, List.tail_cons, List.countP_map]
  simp only [Function.comp_def, hsame]
  rw [hinits, List.countP_cons_of_pos (by simp), List.tail_cons]

theorem endingBy_of_lt {f : Bytes} (h : c < f.length) (frames : List Bytes) : endingBy c (f :: frames) = 0 := by
  rw [endingBy, List.inits_cons, List.tail_cons, List.countP_map, List.countP_eq_zero]
  intro done _
  simp only [Function.comp_apply, List.flatten_cons, List.length_append, decide_eq_true_eq]
  omega

/-- a cut within the frame after the first `k`, or behind all of them -/
theorem endingBy_within {k n : Nat} (hk : k ≤ frames.length) (hn : ∀ f, frames[k]? = some f → n < f.length) :
    endingBy ((frames.take k).flatten.length + n) frames = k := by
  induction k generalizing frames with
  | zero =>
    rw [List.take_zero, List.flatten_nil, List.length_nil, Nat.zero_add]
    cases frames with
    | nil => rfl
    | cons f frames => exact endingBy_of_lt (hn f rfl) frames
  | succ k ih =>
    cases frames with
    | nil => exact absurd hk (Nat.not_succ_le_zero k)
    | cons f frames =>
      have hlength : ((f :: frames).take (k + 1)).flatten.length + n =
          f.length + ((frames.take k).flatten.length + n) := by
        rw [List.take_succ_cons, List.flatten_cons, List.length_append, Nat.add_assoc]
      rw [hlength, endingBy_cons (Nat.le_add_right _ _), Nat.add_sub_cancel_left, ih (Nat.le_of_succ_le_succ hk) hn]

/-- all frames end at or before the end of the stream -/
theorem endingBy_length (frames : List Bytes) : endingBy frames.flatten.length frames = frames.length := by
  have hwithin := endingBy_within (n := 0) (le_refl frames.length) (by simp)
  rwa [List.take_length] at hwithin

/-- a cut that is located after a frame is located in the whole stream -/
theorem Locates.cons {f : Bytes} {k : Nat} {e : LinkError} (h : Locates payloads frames k c e) (p : Bytes) :
    Locates (p :: payloads) (f :: frames) (k + 1) (f.length + c) e := by
  obtain ⟨phase, expected, received, rfl, hlt, hplace⟩ := h
  refine ⟨phase, expected, received, rfl, hlt, ?_⟩
  cases phase with
  | header =>
    obtain ⟨hexpected, hplace⟩ := hplace
    refine ⟨hexpected, ?_⟩
    rw [List.take_succ_cons, List.flatten_cons, List.length_append]
    omega
  | payload =>
    obtain ⟨hexpected, hplace⟩ := hplace
    refine ⟨hexpected, ?_⟩
    rw [List.take_succ_cons, List.flatten_cons, List.length_append]
    omega

/-- **Reading a stream that is cut.** -/
theorem reads_cut (hfit : ∀ p ∈ payloads, p.length ≤ largest ∧ p.length ≤ limit)
    (hc : c ≤ (payloads.map of).flatten.length) (hcoming : inflow.coming = ⟨(payloads.map of).flatten.take c, none⟩) :
    ∃ e, Locates payloads (payloads.map of) (endingBy c (payloads.map of)) c e ∧
      (Act.inTurn (List.replicate (endingBy c (payloads.map of) + 1) (read limit)) inflow).map (·.answer) =
        (payloads.take (endingBy c (payloads.map of))).map .ok ++ [.error e] := by
  induction payloads generalizing c inflow with
  | nil =>
    obtain rfl : c = 0 := by simpa using hc
    have hanswer : (read limit inflow).answer = .error (.connectionLost .header headerSize 0) := by
      rw [answer_read, hcoming]
      rfl
    exact ⟨_, ⟨.header, headerSize, 0, rfl, by decide, rfl, rfl⟩, congrArg (fun a => [a]) hanswer⟩
  | cons p payloads ih =>
    obtain ⟨⟨hlarge, hlimit⟩, hrest⟩ := List.forall_mem_cons.1 hfit
    rw [List.map_cons, List.flatten_cons] at hcoming hc
    by_cases hwhole : (of p).length ≤ c
    · -- the first frame is whole: the cut is in what follows it
      rw [List.take_append, List.take_of_length_le hwhole] at hcoming
      obtain ⟨hanswer, hleft⟩ := read_whole hlarge hlimit hcoming
      rw [List.length_append] at hc
      obtain ⟨e, hplace, hanswers⟩ := ih hrest (by omega) hleft
      rw [List.map_cons, endingBy_cons hwhole]
      refine ⟨e, ?_, ?_⟩
      · have hcut : (of p).length + (c - (of p).length) = c := by omega
        rw [← hcut, Nat.add_sub_cancel_left]
        exact hplace.cons p
      · rw [List.replicate_succ, Act.inTurn, List.map_cons, hanswers, hanswer]
        rfl
    · have hcut := Nat.not_le.1 hwhole
      have hanswer := read_cut hlarge hlimit hcut hcoming
      rw [List.map_cons, endingBy_of_lt hcut]
      refine ⟨_, ?_, congrArg (fun a => [a]) hanswer⟩
      rw [length_of] at hcut
      by_cases hshort : c < headerSize
      · rw [if_pos hshort]
        exact ⟨.header, _, _, rfl, hshort, rfl, by simp⟩
      · rw [if_neg hshort]
        refine ⟨.payload, _, _, rfl, by omega, ⟨p, rfl, rfl⟩, ?_⟩
        simp only [List.take_zero, List.flatten_nil, List.length_nil]
        omega

/-- **A stream of frames decodes exactly, wherever it is cut.** For payloads that are not too long:
- on the first `c` bytes of their frames, however they are cut into pieces and wherever reads are interrupted, reading
  gives the payloads of the frames that end at or before `c`, and then a failure that tells the cut;
- on the whole stream, reading gives all payloads, and then a header of which nothing has arrived.
Conversely, on any stream a payload that is read was taken as its own frame. -/
theorem frames_at_cut (limit : Nat) (payloads : List Bytes)
    (hfit : ∀ p ∈ payloads, p.length ≤ largest ∧ p.length ≤ limit) :
    ∃ frames, payloads.map encode = frames.map .ok ∧
      (∀ c ≤ frames.flatten.length, ∀ inflow : Inflow, inflow.coming = ⟨frames.flatten.take c, none⟩ →
        ∃ e, Locates payloads frames (endingBy c frames) c e ∧
          (Act.inTurn (List.replicate (endingBy c frames + 1) (read limit)) inflow).map (·.answer) =
            (payloads.take (endingBy c frames)).map .ok ++ [.error e]) ∧
      (∀ inflow : Inflow, inflow.coming = ⟨frames.flatten, none⟩ →
        (Act.inTurn (List.replicate (payloads.length + 1) (read limit)) inflow).map (·.answer) =
          payloads.map .ok ++ [.error (.connectionLost .header headerSize 0)]) ∧
      ∀ (limit : Nat) (inflow later : Inflow) (p : Bytes) (trace : Trace),
        read limit inflow = ⟨.ok p, later, trace⟩ → encode p = .ok (Trace.received trace) := by
  refine ⟨payloads.map of, map_encode fun p hp => (hfit p hp).1, fun c hc inflow => reads_cut hfit hc, ?_, ?_⟩
  · intro inflow hcoming
    rw [← List.take_length (l := (payloads.map of).flatten)] at hcoming
    obtain ⟨e, hplace, hanswers⟩ := reads_cut hfit le_rfl hcoming
    rw [endingBy_length, List.length_map] at hplace hanswers
    rw [List.take_length] at hanswers
    rw [hanswers]
    obtain ⟨phase, expected, received, rfl, -, hplace⟩ := hplace
    have htake : (payloads.map of).take payloads.length = payloads.map of :=
      List.take_of_length_le (List.length_map of).le
    cases phase with
    | header =>
      obtain ⟨rfl, hplace⟩ := hplace
      rw [htake] at hplace
      obtain rfl : received = 0 := by omega
      rfl
    | payload =>
      obtain ⟨⟨p, hnone, -⟩, -⟩ := hplace
      simp at hnone
  · intro limit inflow later p trace h
    exact (encode_of_read h).1

/-- a stream of three frames that is cut after fourteen bytes: the third frame has lost its last byte -/
theorem frames_at_cut_in_third :
    let payloads : List Bytes := [[104], [], [105, 106]]
    let inflow : Inflow := { arrivals := [.bytes [1, 0], .failure (.plain .interrupted), .bytes [0, 0, 104, 0],
      .bytes [0, 0, 0, 2, 0, 0, 0, 105]] }
    (∀ p ∈ payloads, p.length ≤ largest ∧ p.length ≤ 10) ∧
      ∃ frames e, Locates payloads frames 2 14 e ∧
        (Act.inTurn (List.replicate 3 (read 10)) inflow).map (·.answer) = [.ok [104], .ok [], .error e] := by
  intro payloads inflow
  have hfit : ∀ p ∈ payloads, p.length ≤ largest ∧ p.length ≤ 10 := by decide
  obtain ⟨frames, hframes, hcut, -⟩ := frames_at_cut 10 payloads hfit
  obtain rfl : [[1, 0, 0, 0, 104], [0, 0, 0, 0], [2, 0, 0, 0, 105, 106]] = frames :=
    List.map_injective_iff.2 (fun _ _ => Except.ok.inj) hframes
  have hcoming : inflow.coming = ⟨[1, 0, 0, 0, 104, 0, 0, 0, 0, 2, 0, 0, 0, 105], none⟩ := rfl
  obtain ⟨e, hplace, hanswers⟩ := hcut 14 (by decide) inflow hcoming
  exact ⟨hfit, _, e, hplace, hanswers⟩

end Frame

end QueryConsole
