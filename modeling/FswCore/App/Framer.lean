import FswCore.App.MainLoop
import FswCore.Library.Pieces

/-!
Contract: the framing loop of `samples/tc_uart/src/main.c` over any stream, with
the receive buffer as the array it is.

Owns:
- `uartFramerByte`, one octet into the array, where a write behind its end is a
  failure;
- no stream makes it fail, and what it dispatches are runs of the stream as long
  as their headers say;
- a stream of packets that fit the buffer is dispatched packet by packet.

Does not own: what the router does with a telecommand.
-/

namespace FswCore

open Library Library.BigEndian

/-- `tc`, `have` and `want`. -/
structure UartFramer where
  tc : Vector UInt8 tcBufSize
  received : Nat
  want : Nat

/-- One octet; `none` where the write would be behind the end of `tc`. -/
def uartFramerByte (framer : UartFramer) (byte : UInt8) :
    Option (UartFramer × Option (List UInt8)) :=
  if inside : framer.received < tcBufSize then
    let tc := framer.tc.set framer.received byte
    let received := framer.received + 1
    let want := if received = ccsdsPrimaryHeaderSize then
        ccsdsPacketTotalSize (be16At tc.toList 4)
      else framer.want
    if received = ccsdsPrimaryHeaderSize ∧ want > tcBufSize then
      some ({ tc := tc, received := 0, want := 0 }, none)
    else if want ≠ 0 ∧ received = want then
      some ({ tc := tc, received := 0, want := 0 }, some (tc.toList.take received))
    else some ({ tc := tc, received := received, want := want }, none)
  else none

/-- The telecommands dispatched, in order; `none` where a write failed. -/
def uartFramerRun : UartFramer → List UInt8 → Option (UartFramer × List (List UInt8))
  | framer, [] => some (framer, [])
  | framer, byte :: rest =>
      match uartFramerByte framer byte with
      | none => none
      | some (after, frame) =>
          match uartFramerRun after rest with
          | none => none
          | some (last, frames) => some (last, frame.toList ++ frames)

/-! ### The array and the octets received -/

/-- The array holds what was received. -/
structure UartFramer.Holds (array : UartFramer) (framer : TcFramer) : Prop where
  tc : array.tc.toList.take array.received = framer.tc
  received : array.received = framer.tc.length
  want : array.want = framer.want

/-- Before the header is in no size is wanted; after it the size of the header is,
and is not reached. -/
inductive TcFramer.InStep (framer : TcFramer) : Prop where
  | header (early : framer.tc.length < ccsdsPrimaryHeaderSize) (unknown : framer.want = 0)
  | body (late : ccsdsPrimaryHeaderSize ≤ framer.tc.length)
      (wanted : framer.want = ccsdsPacketTotalSize (be16At framer.tc 4))
      (short : framer.tc.length < framer.want) (fits : framer.want ≤ tcBufSize)

theorem TcFramer.InStep.room {framer : TcFramer} (inStep : framer.InStep) :
    framer.tc.length < tcBufSize := by
  cases inStep with
  | header early unknown => exact Nat.lt_trans early (by decide)
  | body late wanted short fits => exact Nat.lt_of_lt_of_le short fits

theorem framerIdle_inStep : framerIdle.InStep := .header (by decide) rfl

/-- What one octet does to a framer in step. -/
inductive ByteOutcome (framer : TcFramer) (byte : UInt8) :
    TcFramer × Option (List UInt8) → Prop where
  | discarded : ByteOutcome framer byte (framerIdle, none)
  | completed (sized : (framer.tc ++ [byte]).length =
      ccsdsPacketTotalSize (be16At (framer.tc ++ [byte]) 4)) :
      ByteOutcome framer byte (framerIdle, some (framer.tc ++ [byte]))
  | moved (want : Nat) (inStep : TcFramer.InStep ⟨framer.tc ++ [byte], want⟩) :
      ByteOutcome framer byte (⟨framer.tc ++ [byte], want⟩, none)

/-- The octet that completes a header of a size the buffer fits. -/
theorem TcFramer.InStep.of_header {tc : List UInt8} (complete : tc.length = ccsdsPrimaryHeaderSize)
    (fits : ccsdsPacketTotalSize (be16At tc 4) ≤ tcBufSize) :
    TcFramer.InStep ⟨tc, ccsdsPacketTotalSize (be16At tc 4)⟩ := by
  apply TcFramer.InStep.body
  · exact Nat.le_of_eq complete.symm
  · rfl
  · show tc.length < ccsdsPacketTotalSize (be16At tc 4)
    rw [complete, ccsdsPacketTotalSize]
    omega
  · exact fits

/-- An octet of the body that is not its last. -/
theorem TcFramer.InStep.append {framer : TcFramer}
    (late : ccsdsPrimaryHeaderSize ≤ framer.tc.length)
    (wanted : framer.want = ccsdsPacketTotalSize (be16At framer.tc 4))
    (fits : framer.want ≤ tcBufSize) {byte : UInt8}
    (short : (framer.tc ++ [byte]).length < framer.want) :
    TcFramer.InStep ⟨framer.tc ++ [byte], framer.want⟩ := by
  have six : ccsdsPrimaryHeaderSize = 6 := rfl
  apply TcFramer.InStep.body
  · exact Nat.le_trans late (List.prefix_append framer.tc [byte]).length_le
  · rw [wanted, be16At_append_left [byte] (by omega)]
  · exact short
  · exact fits

theorem framerByte_outcome {framer : TcFramer} (inStep : framer.InStep) (byte : UInt8) :
    ByteOutcome framer byte (framerByte framer byte) := by
  have six : ccsdsPrimaryHeaderSize = 6 := rfl
  have length : (framer.tc ++ [byte]).length = framer.tc.length + 1 := List.length_append
  have total (value : UInt16) : 7 ≤ ccsdsPacketTotalSize value := by
    rw [ccsdsPacketTotalSize]
    omega
  rw [framerByte]
  cases inStep with
  | header early unknown =>
      by_cases complete : (framer.tc ++ [byte]).length = ccsdsPrimaryHeaderSize
      · rw [if_pos complete]
        have least := total (be16At (framer.tc ++ [byte]) 4)
        split
        · exact .discarded
        · rename_i fits
          rw [if_neg (by omega)]
          apply ByteOutcome.moved
          exact .of_header complete (Nat.le_of_not_lt fun large => fits ⟨complete, large⟩)
      · rw [if_neg complete, unknown, if_neg fun large => complete large.1,
          if_neg fun wanted => wanted.1 rfl]
        apply ByteOutcome.moved
        apply TcFramer.InStep.header
        · show (framer.tc ++ [byte]).length < _
          omega
        · rfl
  | body late wanted short fits =>
      have behind : (framer.tc ++ [byte]).length ≠ ccsdsPrimaryHeaderSize := by omega
      have same : be16At (framer.tc ++ [byte]) 4 = be16At framer.tc 4 :=
        be16At_append_left [byte] (by omega)
      rw [if_neg behind, if_neg fun large => behind large.1]
      split
      · rename_i complete
        apply ByteOutcome.completed
        rw [same, ← wanted]
        exact complete.2
      · rename_i incomplete
        apply ByteOutcome.moved
        apply TcFramer.InStep.append late wanted fits
        have different : (framer.tc ++ [byte]).length ≠ framer.want := fun equal =>
          incomplete ⟨by omega, equal⟩
        omega

/-- The array does what the list of octets does, as long as there is room. -/
theorem uartFramerByte_holds {array : UartFramer} {framer : TcFramer}
    (holds : array.Holds framer) (room : framer.tc.length < tcBufSize) (byte : UInt8) :
    ∃ after, uartFramerByte array byte = some (after, (framerByte framer byte).2) ∧
      after.Holds (framerByte framer byte).1 := by
  have inside : array.received < tcBufSize := by
    rw [holds.received]
    exact room
  have length : (framer.tc ++ [byte]).length = array.received + 1 := by
    rw [List.length_append, List.length_singleton, holds.received]
  generalize isTc : array.tc.set array.received byte = tc
  have written : tc.toList.take (array.received + 1) = framer.tc ++ [byte] := by
    rw [← isTc, Vector.toList_set, take_set_succ (by rw [Vector.length_toList]; exact inside),
      holds.tc]
  have header : array.received + 1 = ccsdsPrimaryHeaderSize →
      be16At tc.toList 4 = be16At (framer.tc ++ [byte]) 4 := by
    intro complete
    have split := List.take_append_drop (array.received + 1) tc.toList
    rw [written] at split
    rw [← split]
    exact be16At_append_left _ (by rw [length, complete]; decide)
  have want : (if array.received + 1 = ccsdsPrimaryHeaderSize then
        ccsdsPacketTotalSize (be16At tc.toList 4) else array.want) =
      if (framer.tc ++ [byte]).length = ccsdsPrimaryHeaderSize then
        ccsdsPacketTotalSize (be16At (framer.tc ++ [byte]) 4) else framer.want := by
    rw [length, holds.want]
    split
    · rename_i complete
      rw [header complete]
    · rfl
  rw [uartFramerByte, dif_pos inside, framerByte]
  simp only [isTc, want, length]
  generalize (if array.received + 1 = ccsdsPrimaryHeaderSize then
    ccsdsPacketTotalSize (be16At (framer.tc ++ [byte]) 4) else framer.want) = wanted
  by_cases large : array.received + 1 = ccsdsPrimaryHeaderSize ∧ wanted > tcBufSize
  · simp only [if_pos large]
    exact ⟨_, rfl, rfl, rfl, rfl⟩
  by_cases complete : wanted ≠ 0 ∧ array.received + 1 = wanted
  · simp only [if_neg large, if_pos complete, written]
    exact ⟨_, rfl, rfl, rfl, rfl⟩
  · simp only [if_neg large, if_neg complete]
    exact ⟨_, rfl, written, length.symm, rfl⟩

/-! ### Streams -/

/-- From any state in step. -/
theorem uartFramerRun_pieces {array : UartFramer} {framer : TcFramer}
    (holds : array.Holds framer) (inStep : framer.InStep) (stream : List UInt8) :
    ∃ after frames, uartFramerRun array stream = some (after, frames) ∧
      Pieces frames (framer.tc ++ stream) ∧
      ∀ frame ∈ frames, frame.length = ccsdsPacketTotalSize (be16At frame 4) := by
  induction stream generalizing array framer with
  | nil => exact ⟨array, [], rfl, .nil _, fun _ member => absurd member List.not_mem_nil⟩
  | cons byte rest inductionHypothesis =>
      obtain ⟨next, stepped, nextHolds⟩ := uartFramerByte_holds holds inStep.room byte
      have stream : framer.tc ++ byte :: rest = (framer.tc ++ [byte]) ++ rest := by
        rw [List.append_assoc, List.singleton_append]
      rw [uartFramerRun, stepped, stream]
      have outcome := framerByte_outcome inStep byte
      generalize framerByte framer byte = result at outcome nextHolds
      cases outcome with
      | discarded =>
          obtain ⟨after, frames, run, taken, sized⟩ :=
            inductionHypothesis nextHolds framerIdle_inStep
          refine ⟨after, frames, ?_, taken.prepend _, sized⟩
          simp only [run, Option.toList_none, List.nil_append]
      | completed whole =>
          obtain ⟨after, frames, run, taken, sized⟩ :=
            inductionHypothesis nextHolds framerIdle_inStep
          refine ⟨after, (framer.tc ++ [byte]) :: frames, ?_, .first _ taken, ?_⟩
          · simp only [run, Option.toList_some, List.singleton_append]
          · intro frame member
            rcases List.mem_cons.mp member with rfl | later
            · exact whole
            · exact sized frame later
      | moved want nextInStep =>
          obtain ⟨after, frames, run, taken, sized⟩ := inductionHypothesis nextHolds nextInStep
          refine ⟨after, frames, ?_, taken, sized⟩
          simp only [run, Option.toList_none, List.nil_append]

/-- The octets a packet still lacks, then whatever follows it. -/
theorem uartFramerRun_rest {packet : List UInt8} (accepts : FramerAccepts packet)
    {array : UartFramer} {received lacking : List UInt8} (stream : packet = received ++ lacking)
    (more : lacking ≠ []) (holds : array.Holds (framerAfter packet received))
    (behind : List UInt8) :
    ∃ next : UartFramer, next.Holds framerIdle ∧
      uartFramerRun array (lacking ++ behind) =
        (uartFramerRun next behind).map fun run => (run.1, packet :: run.2) := by
  induction lacking generalizing array received with
  | nil => exact absurd rfl more
  | cons byte rest inductionHypothesis =>
      have room : received.length < tcBufSize := by
        have fits := accepts.fits
        rw [stream, List.length_append, List.length_cons] at fits
        omega
      obtain ⟨next, stepped, nextHolds⟩ := uartFramerByte_holds holds room byte
      rw [framerByte_after accepts stream] at stepped nextHolds
      rw [List.cons_append, uartFramerRun, stepped]
      by_cases last : rest = []
      · rw [if_pos last] at nextHolds ⊢
        refine ⟨next, nextHolds, ?_⟩
        simp only [last, List.nil_append]
        cases uartFramerRun next behind with
        | none => rfl
        | some run => rfl
      · rw [if_neg last] at nextHolds ⊢
        have front : packet = (received ++ [byte]) ++ rest := by
          rw [stream, List.append_assoc, List.singleton_append]
        obtain ⟨final, finalHolds, run⟩ := inductionHypothesis front last nextHolds
        refine ⟨final, finalHolds, ?_⟩
        simp only [run]
        cases uartFramerRun final behind with
        | none => rfl
        | some run => rfl

/-- Packets that fit, one behind the other, are dispatched one after the other. -/
theorem uartFramerRun_packets {array : UartFramer} (holds : array.Holds framerIdle)
    {packets : List (List UInt8)} (accepts : ∀ packet ∈ packets, FramerAccepts packet) :
    ∃ after : UartFramer, after.Holds framerIdle ∧
      uartFramerRun array packets.flatten = some (after, packets) := by
  induction packets generalizing array with
  | nil => exact ⟨array, holds, rfl⟩
  | cons packet rest inductionHypothesis =>
      have fits := accepts packet List.mem_cons_self
      have nonempty : packet ≠ [] := by
        rintro rfl
        have delimited := fits.delimited
        rw [List.length_nil, ccsdsPacketTotalSize] at delimited
        omega
      obtain ⟨next, nextHolds, run⟩ :=
        uartFramerRun_rest fits (List.nil_append packet).symm nonempty holds rest.flatten
      obtain ⟨after, afterHolds, later⟩ := inductionHypothesis nextHolds fun other member =>
        accepts other (List.mem_cons_of_mem _ member)
      refine ⟨after, afterHolds, ?_⟩
      rw [List.flatten_cons, run, later]
      rfl

/-! ### Dispatch -/

/-- The telecommands handed to the router, one after the other. -/
def dispatchFrames {cfg : Config} (nowSeconds : UInt32) :
    LoopState cfg → List (List UInt8) → LoopReply cfg
  | state, [] => { state := state, sent := [] }
  | state, frame :: rest =>
      let reply := framerDispatch state nowSeconds frame
      let later := dispatchFrames nowSeconds reply.state rest
      { later with sent := reply.sent ++ later.sent }

/-- The loop hands the router what the framer completes, and nothing else. -/
theorem framerFeed_frames {cfg : Config} {array : UartFramer} {framer : TcFramer}
    (holds : array.Holds framer) (inStep : framer.InStep) (state : LoopState cfg)
    (nowSeconds : UInt32) {stream : List UInt8} {after : UartFramer}
    {frames : List (List UInt8)} (run : uartFramerRun array stream = some (after, frames)) :
    (framerFeed nowSeconds framer state stream).2 = dispatchFrames nowSeconds state frames := by
  induction stream generalizing array framer state frames with
  | nil =>
      cases run
      rfl
  | cons byte rest inductionHypothesis =>
      obtain ⟨next, stepped, nextHolds⟩ := uartFramerByte_holds holds inStep.room byte
      rw [uartFramerRun, stepped] at run
      rw [framerFeed]
      have outcome := framerByte_outcome inStep byte
      generalize framerByte framer byte = result at outcome nextHolds run
      simp only at run
      split at run
      · contradiction
      rename_i last later ran
      obtain ⟨rfl, rfl⟩ := Prod.mk.inj (Option.some.inj run)
      cases outcome with
      | discarded => exact inductionHypothesis nextHolds framerIdle_inStep state ran
      | completed whole =>
          have dispatched := inductionHypothesis nextHolds framerIdle_inStep
            (framerDispatch state nowSeconds (framer.tc ++ [byte])).state ran
          simp only [Option.toList_some, List.singleton_append, dispatchFrames, ← dispatched]
      | moved want nextInStep => exact inductionHypothesis nextHolds nextInStep state ran

/-- What the loop does with a stream, from power-on and whatever `tc` holds. -/
structure FramerExact (array : UartFramer) : Prop where
  inBounds : ∀ stream, uartFramerRun array stream ≠ none
  pieces : ∀ stream after frames, uartFramerRun array stream = some (after, frames) →
    Pieces frames stream
  sized : ∀ stream after frames, uartFramerRun array stream = some (after, frames) →
    ∀ frame ∈ frames, frame <:+: stream ∧
      frame.length = ccsdsPacketTotalSize (be16At frame 4)
  packets : ∀ packets : List (List UInt8), (∀ packet ∈ packets,
      packet.length = ccsdsPacketTotalSize (be16At packet 4) ∧ 7 ≤ packet.length ∧
        packet.length ≤ tcBufSize) →
    ∃ after, uartFramerRun array packets.flatten = some (after, packets)
  dispatched : ∀ (cfg : Config) (state : LoopState cfg) nowSeconds stream after frames,
    uartFramerRun array stream = some (after, frames) →
      (framerFeed nowSeconds framerIdle state stream).2 = dispatchFrames nowSeconds state frames

/-- For every stream. -/
theorem uartFramerRun_exact (tc : Vector UInt8 tcBufSize) : FramerExact ⟨tc, 0, 0⟩ := by
  have holds : UartFramer.Holds ⟨tc, 0, 0⟩ framerIdle := ⟨rfl, rfl, rfl⟩
  have runs (stream : List UInt8) := uartFramerRun_pieces holds framerIdle_inStep stream
  have determined {stream : List UInt8} {after : UartFramer} {frames : List (List UInt8)}
      (run : uartFramerRun ⟨tc, 0, 0⟩ stream = some (after, frames)) :
      Pieces frames stream ∧
        ∀ frame ∈ frames, frame.length = ccsdsPacketTotalSize (be16At frame 4) := by
    obtain ⟨_, _, same, taken, sized⟩ := runs stream
    rw [run, Option.some.injEq, Prod.mk.injEq] at same
    rw [same.2]
    exact ⟨taken, sized⟩
  constructor
  · intro stream failed
    obtain ⟨_, _, run, _⟩ := runs stream
    rw [failed] at run
    contradiction
  · intro stream after frames run
    exact (determined run).1
  · intro stream after frames run frame member
    exact ⟨(determined run).1.isInfix member, (determined run).2 frame member⟩
  · intro packets fits
    obtain ⟨after, _, run⟩ := uartFramerRun_packets holds fun packet member =>
      ⟨(fits packet member).1, (fits packet member).2.2⟩
    exact ⟨after, run⟩
  · intro cfg state nowSeconds stream after frames run
    exact framerFeed_frames holds framerIdle_inStep state nowSeconds run

end FswCore
