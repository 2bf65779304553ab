import FswCore.Largedata.Model
import FswCore.Library.Slices

/-!
Contract: what the ground receives of the transfers of one session.

Owns:
- the run of a session that shares the sequence count with other senders, with
  the parts emitted in each transfer;
- that every transfer that ends is downlinked whole and in order, and that a
  refused call leaves everything as it was.

Does not own: the octets of a part packet.
-/

namespace FswCore

open Library Library.BigEndian

/-- What a build has to keep: a part packet fits the telemetry buffers, and the
number of parts its field. -/
structure Config.LargedataLimits (cfg : Config) : Prop where
  partSize : 1 ≤ cfg.pus13PartSize
  partPacket : pus13PartPacketMax cfg ≤ 128
  totalParts : cfg.largedataUnitMax ≤ 65535 * cfg.pus13PartSize

/-! ### What is to be received -/

structure LargedataTransfer where
  transactionId : UInt16
  unit : List UInt8
deriving DecidableEq, Repr

def LargedataTransfer.partCount (cfg : Config) (transfer : LargedataTransfer) : Nat :=
  transfer.unit.length ⌈/⌉ cfg.pus13PartSize

/-- By position, of `count` parts. -/
def positionSubtype (count number : Nat) : UInt8 :=
  if number + 1 = count then pus13SubtypeLastPart
  else if number = 0 then pus13SubtypeFirstPart
  else pus13SubtypeIntermediatePart

/-- A part that was emitted, next to the arguments of the call. -/
structure PartEmission where
  request : TmRequest
  tmSeqCount : UInt16
  packet : List UInt8

/-- The packet is part `number` of the transfer. -/
def PartReads (cfg : Config) (transfer : LargedataTransfer) (number : Nat)
    (emission : PartEmission) : Prop :=
  let payload := slice cfg.pus13PartSize transfer.unit number
  ∃ (partNumber totalParts : UInt16) (msgCounter : UInt8),
    partNumber.toNat = number ∧ totalParts.toNat = transfer.partCount cfg ∧
      ReadsAs emission.packet
        { primary := tmPrimaryOf emission.request emission.tmSeqCount
            (pus13PartHeaderSize + payload.length)
          secondary := pus13Secondary emission.request
            (positionSubtype (transfer.partCount cfg) number) msgCounter
          source := pus13Source transfer.transactionId partNumber totalParts payload }

/-- A transfer that was started, and the parts emitted in it. -/
structure TransferLog where
  transfer : LargedataTransfer
  parts : List PartEmission

/-- The parts are those of the transfer, from the first on. -/
def TransferLog.InOrder (cfg : Config) (log : TransferLog) : Prop :=
  ∀ number emission, log.parts[number]? = some emission →
    PartReads cfg log.transfer number emission

/-- Every part was emitted once, and together they carry the unit. -/
structure TransferLog.Reassembled (cfg : Config) (log : TransferLog) : Prop where
  inOrder : log.InOrder cfg
  count : log.parts.length = log.transfer.partCount cfg
  unit : (log.parts.map fun emission => partPayload emission.packet).flatten = log.transfer.unit

theorem PartReads.payload {cfg : Config} {transfer : LargedataTransfer} {number : Nat}
    {emission : PartEmission} (reads : PartReads cfg transfer number emission) :
    partPayload emission.packet = slice cfg.pus13PartSize transfer.unit number := by
  obtain ⟨partNumber, totalParts, msgCounter, _, _, packet⟩ := reads
  exact partPayload_reads packet rfl

theorem TransferLog.InOrder.payloads {cfg : Config} {log : TransferLog}
    (inOrder : log.InOrder cfg) :
    (log.parts.map fun emission => partPayload emission.packet) =
      (List.range log.parts.length).map (slice cfg.pus13PartSize log.transfer.unit) := by
  apply List.ext_getElem?
  intro number
  rw [List.getElem?_map, List.getElem?_map]
  cases read : log.parts[number]? with
  | none =>
      have beyond := List.getElem?_eq_none_iff.mp read
      rw [List.getElem?_eq_none (by rw [List.length_range]; exact beyond)]
      rfl
  | some emission =>
      have below := (List.getElem?_eq_some_iff.mp read).1
      rw [List.getElem?_range below]
      exact congrArg some (inOrder number emission read).payload

/-- All parts in order are the unit. -/
theorem TransferLog.InOrder.reassembled {cfg : Config} {log : TransferLog}
    (partSize : 1 ≤ cfg.pus13PartSize) (inOrder : log.InOrder cfg)
    (count : log.parts.length = log.transfer.partCount cfg) : log.Reassembled cfg where
  inOrder := inOrder
  count := count
  unit := by
    rw [inOrder.payloads, count]
    exact flatten_slices_all partSize log.transfer.unit

/-- One more part. -/
theorem TransferLog.InOrder.emit {cfg : Config} {log : TransferLog} (inOrder : log.InOrder cfg)
    {emission : PartEmission} (reads : PartReads cfg log.transfer log.parts.length emission) :
    TransferLog.InOrder cfg { log with parts := log.parts ++ [emission] } := by
  intro number other read
  rw [List.getElem?_append] at read
  split at read
  · exact inOrder number other read
  · rename_i beyond
    have last : number = log.parts.length := by
      have below := (List.getElem?_eq_some_iff.mp read).1
      simp only [List.length_cons, List.length_nil] at below
      omega
    subst last
    rw [Nat.sub_self] at read
    cases read
    exact reads

/-! ### The run of a session -/

/-- The session, the sequence count it shares, and the transfers so far, the last one
first. -/
structure Downlink where
  session : LargedataSession
  tmSeqCount : UInt16
  logs : List TransferLog

inductive LargedataOp where
  | start (transactionId : UInt16) (unit : List UInt8)
  | nextPart (request : TmRequest)
  | otherSender (tmSeqCount : UInt16)

/-- The identifiers fit their fields, and so does the count another sender leaves. -/
def LargedataOp.InRange : LargedataOp → Prop
  | .start _ _ => True
  | .nextPart request => request.apid ≤ 0x7FF
  | .otherSender tmSeqCount => tmSeqCount ≤ 0x3FFF

instance : DecidablePred LargedataOp.InRange
  | .start _ _ => .isTrue trivial
  | .nextPart request => inferInstanceAs (Decidable (request.apid ≤ 0x7FF))
  | .otherSender tmSeqCount => inferInstanceAs (Decidable (tmSeqCount ≤ 0x3FFF))

inductive LargedataReturn where
  | started (status : LargedataStatus)
  | part (result : Except LargedataStatus (Option (List UInt8)))
  | sent

structure DownlinkReply where
  returned : LargedataReturn
  downlink : Downlink

/-- A part counts for the transfer that was started last. -/
def recordPart (emission : PartEmission) : List TransferLog → List TransferLog
  | [] => []
  | log :: earlier => { log with parts := log.parts ++ [emission] } :: earlier

def downlinkStep (cfg : Config) (downlink : Downlink) : LargedataOp → DownlinkReply
  | .start transactionId unit =>
      let (status, session) := largedataStart cfg downlink.session transactionId unit
      let started : TransferLog :=
        { transfer := { transactionId := transactionId, unit := unit }, parts := [] }
      { returned := .started status
        downlink :=
          { downlink with
            session := session
            logs := if status = .ok then started :: downlink.logs else downlink.logs } }
  | .nextPart request =>
      let reply := largedataNextPart cfg downlink.session downlink.tmSeqCount request
      let logs := match reply.result with
        | .ok (some packet) =>
            recordPart
              { request := request, tmSeqCount := downlink.tmSeqCount, packet := packet }
              downlink.logs
        | _ => downlink.logs
      { returned := .part reply.result
        downlink := { session := reply.session, tmSeqCount := reply.tmSeqCount, logs := logs } }
  | .otherSender tmSeqCount =>
      { returned := .sent, downlink := { downlink with tmSeqCount := tmSeqCount } }

def downlinkBoot (tmSeqCount : UInt16) : Downlink :=
  { session := largedataInit, tmSeqCount := tmSeqCount, logs := [] }

def downlinkRun (cfg : Config) (downlink : Downlink) (ops : List LargedataOp) : Downlink :=
  ops.foldl (fun downlink op => (downlinkStep cfg downlink op).downlink) downlink

/-! ### The invariant -/

/-- An unfinished transfer, as the session keeps track of it. -/
structure Transferring (cfg : Config) (session : LargedataSession) (current : TransferLog) :
    Prop where
  inOrder : current.InOrder cfg
  unfinished : current.parts.length < current.transfer.partCount cfg
  admitted : current.transfer.unit.length ≤ cfg.largedataUnitMax
  unit : session.unit = current.transfer.unit
  transactionId : session.transactionId = current.transfer.transactionId
  nextPart : session.nextPart.toNat = current.parts.length
  totalParts : session.totalParts.toNat = current.transfer.partCount cfg
  cursor : session.cursor = current.parts.length * cfg.pus13PartSize

/-- Every transfer but one that is going on was received whole. -/
structure Downlinked (cfg : Config) (downlink : Downlink) : Prop where
  seqCount : downlink.tmSeqCount ≤ 0x3FFF
  idle : downlink.session.state = .idle → ∀ log ∈ downlink.logs, log.Reassembled cfg
  active : downlink.session.state = .active → ∃ current earlier,
    downlink.logs = current :: earlier ∧ Transferring cfg downlink.session current ∧
      ∀ log ∈ earlier, log.Reassembled cfg

theorem downlinkBoot_downlinked (cfg : Config) {tmSeqCount : UInt16}
    (inRange : tmSeqCount ≤ 0x3FFF) : Downlinked cfg (downlinkBoot tmSeqCount) where
  seqCount := inRange
  idle := by
    intro _ log member
    exact absurd member List.not_mem_nil
  active := by
    intro active
    contradiction

/-! ### A start -/

/-- A start is accepted, or leaves the session as it was. -/
theorem largedataStart_cases (cfg : Config) (session : LargedataSession)
    (transactionId : UInt16) (unit : List UInt8) :
    (∃ status, status ≠ .ok ∧
        largedataStart cfg session transactionId unit = (status, session)) ∨
      (unit.length ≠ 0 ∧ session.state = .idle ∧ unit.length ≤ cfg.largedataUnitMax ∧
        ∃ started, largedataStart cfg session transactionId unit = (.ok, started) ∧
          started = { session with
            totalParts :=
              UInt16.ofNat ((unit.length + cfg.pus13PartSize - 1) / cfg.pus13PartSize)
            unit := unit
            cursor := 0
            transactionId := transactionId
            nextPart := 0
            state := .active }) := by
  simp only [largedataStart]
  split_ifs with empty busy large
  · exact .inl ⟨.errBadArg, by decide, rfl⟩
  · exact .inl ⟨.errBusy, by decide, rfl⟩
  · exact .inl ⟨.errUnitTooLarge, by decide, rfl⟩
  · exact .inr ⟨empty, not_not.mp busy, Nat.le_of_not_lt large, _, rfl, rfl⟩

theorem partCount_le {cfg : Config} (limits : cfg.LargedataLimits)
    {transfer : LargedataTransfer} (admitted : transfer.unit.length ≤ cfg.largedataUnitMax) :
    transfer.partCount cfg ≤ 65535 := by
  rw [LargedataTransfer.partCount, ceilDiv_le_iff_le_mul limits.partSize, Nat.mul_comm]
  exact Nat.le_trans admitted limits.totalParts

/-- A transfer is started at its first part. -/
theorem transferring_started {cfg : Config} (limits : cfg.LargedataLimits)
    {session : LargedataSession} {transactionId : UInt16} {unit : List UInt8}
    (nonempty : unit.length ≠ 0) (admitted : unit.length ≤ cfg.largedataUnitMax) :
    Transferring cfg
      { session with
        totalParts := UInt16.ofNat ((unit.length + cfg.pus13PartSize - 1) / cfg.pus13PartSize)
        unit := unit
        cursor := 0
        transactionId := transactionId
        nextPart := 0
        state := .active }
      { transfer := { transactionId := transactionId, unit := unit }, parts := [] } where
  inOrder := by
    intro number emission read
    simp only [List.getElem?_nil, reduceCtorEq] at read
  unfinished := by
    show 0 < unit.length ⌈/⌉ cfg.pus13PartSize
    rw [lt_ceilDiv_iff limits.partSize, Nat.zero_mul]
    exact Nat.pos_of_ne_zero nonempty
  admitted := admitted
  unit := rfl
  transactionId := rfl
  nextPart := rfl
  totalParts := by
    have fits : (unit.length + cfg.pus13PartSize - 1) / cfg.pus13PartSize ≤ 65535 :=
      @partCount_le _ limits { transactionId := transactionId, unit := unit } admitted
    rw [UInt16.toNat_ofNat', Nat.mod_eq_of_lt (by omega)]
    rfl
  cursor := (Nat.zero_mul _).symm

/-! ### A part -/

/-- The subtype of the codec is the one of the position. -/
theorem pus13SubtypeFor_position {partNumber totalParts : UInt16} {number count : Nat}
    (numbered : partNumber.toNat = number) (counted : totalParts.toNat = count)
    (below : number < count) :
    pus13SubtypeFor partNumber totalParts = positionSubtype count number := by
  have final : (totalParts - 1).toNat = count - 1 := by
    have positive : (1 : UInt16) ≤ totalParts := by
      rw [UInt16.le_iff_toNat_le, counted]
      show 1 ≤ count
      omega
    rw [UInt16.toNat_sub_of_le _ _ positive, counted]
    rfl
  have isLast : partNumber = totalParts - 1 ↔ number + 1 = count := by
    rw [← UInt16.toNat_inj, numbered, final]
    omega
  have isFirst : partNumber = 0 ↔ number = 0 := by
    rw [← UInt16.toNat_inj, numbered]
    rfl
  simp only [pus13SubtypeFor, positionSubtype, isLast, isFirst]

/-- The chunk the session slices off. -/
theorem Transferring.chunk {cfg : Config} {session : LargedataSession} {current : TransferLog}
    (transferring : Transferring cfg session current) :
    let remainder := session.unit.length - session.cursor
    let chunk := if remainder > cfg.pus13PartSize then cfg.pus13PartSize else remainder
    window session.unit session.cursor chunk =
      slice cfg.pus13PartSize current.transfer.unit current.parts.length := by
  intro remainder chunk
  have rest : (current.transfer.unit.drop session.cursor).length = remainder := by
    rw [List.length_drop, ← transferring.unit]
  rw [slice, ← transferring.cursor, transferring.unit, window, window]
  by_cases more : remainder > cfg.pus13PartSize
  · rw [show chunk = cfg.pus13PartSize from if_pos more]
  · rw [show chunk = remainder from if_neg more, List.take_of_length_le (by omega),
      List.take_of_length_le (by omega)]

/-- The next part carries something, and no more than a part may. -/
theorem Transferring.slice_length_pos {cfg : Config} (limits : cfg.LargedataLimits)
    {session : LargedataSession} {current : TransferLog}
    (transferring : Transferring cfg session current) :
    1 ≤ (slice cfg.pus13PartSize current.transfer.unit current.parts.length).length ∧
      (slice cfg.pus13PartSize current.transfer.unit current.parts.length).length ≤
        cfg.pus13PartSize := by
  have begun := (lt_ceilDiv_iff limits.partSize current.transfer.unit.length
    current.parts.length).mp transferring.unfinished
  have partSize := limits.partSize
  rw [slice_length]
  omega

/-- The octets of the next part packet. -/
def nextPartSize (cfg : Config) (current : TransferLog) : Nat :=
  24 + (slice cfg.pus13PartSize current.transfer.unit current.parts.length).length

/-- The session behind a part of `chunk` octets. -/
def LargedataSession.behindPart (session : LargedataSession) (chunk : Nat) (counters : Pus13Ctx) :
    LargedataSession :=
  { session with
    pus13 := counters
    cursor := session.cursor + chunk
    nextPart := session.nextPart + 1
    state := if session.nextPart + 1 ≥ session.totalParts then .idle else session.state }

/-- A call in an active session emits the next part of the transfer if its octets fit,
and leaves everything as it was if not. -/
theorem Transferring.nextPart_cases {cfg : Config} (limits : cfg.LargedataLimits)
    {session : LargedataSession} {current : TransferLog} (active : session.state = .active)
    (transferring : Transferring cfg session current) {tmSeqCount : UInt16}
    (seqCount : tmSeqCount ≤ 0x3FFF) {request : TmRequest} (apid : request.apid ≤ 0x7FF) :
    (request.outCap < nextPartSize cfg current ∧
        ∃ status, largedataNextPart cfg session tmSeqCount request =
          { result := .error status, session := session, tmSeqCount := tmSeqCount }) ∨
      (nextPartSize cfg current ≤ request.outCap ∧ ∃ packet counters,
        largedataNextPart cfg session tmSeqCount request =
          { result := .ok (some packet)
            session := session.behindPart
              (slice cfg.pus13PartSize current.transfer.unit current.parts.length).length counters
            tmSeqCount := tmSeqNext tmSeqCount } ∧
          PartReads cfg current.transfer current.parts.length
            { request := request, tmSeqCount := tmSeqCount, packet := packet }) := by
  have small : cfg.pus13PartSize + 18 < 65536 := by
    have partPacket := limits.partPacket
    rw [pus13PartPacketMax] at partPacket
    omega
  have running : ¬session.state ≠ .active := not_not.mpr active
  have chunk := transferring.chunk
  simp only at chunk
  have chunkLength : (if session.unit.length - session.cursor > cfg.pus13PartSize then
      cfg.pus13PartSize else session.unit.length - session.cursor) =
      (slice cfg.pus13PartSize current.transfer.unit current.parts.length).length := by
    rw [slice_length, ← transferring.cursor, ← transferring.unit]
    split <;> omega
  rw [chunkLength] at chunk
  rcases pus13BuildPart_cases cfg session.pus13 tmSeqCount request session.transactionId
    session.nextPart session.totalParts
    (slice cfg.pus13PartSize current.transfer.unit current.parts.length) small with
    ⟨status, refused⟩ | ⟨packet, counters, msgCounter, built, room, reads⟩
  · refine .inl ⟨?_, if status = .errBufTooSmall then .errBufTooSmall else .errBadArg, ?_⟩
    · by_contra room
      have index : session.nextPart < session.totalParts := by
        rw [UInt16.lt_iff_toNat_lt, transferring.nextPart, transferring.totalParts]
        exact transferring.unfinished
      have cut := transferring.slice_length_pos limits
      obtain ⟨packet, built⟩ := pus13BuildPart_ok cfg session.pus13 session.transactionId small
        index cut.1 cut.2 apid seqCount (Nat.le_of_not_lt room)
      rw [refused] at built
      contradiction
    · simp only [largedataNextPart, if_neg running, chunkLength, chunk, refused]
      cases status <;> rfl
  · refine .inr ⟨room, packet, counters, ?_, session.nextPart, session.totalParts, msgCounter,
      transferring.nextPart, transferring.totalParts, ?_⟩
    · simp only [largedataNextPart, if_neg running, chunkLength, chunk, built]
      rfl
    · rw [← transferring.transactionId,
        ← pus13SubtypeFor_position transferring.nextPart transferring.totalParts
          transferring.unfinished]
      exact reads

/-- Behind a part the transfer goes on, or was received whole. -/
theorem Transferring.emit {cfg : Config} (limits : cfg.LargedataLimits)
    {session : LargedataSession} {current : TransferLog} (active : session.state = .active)
    (transferring : Transferring cfg session current) {emission : PartEmission}
    (reads : PartReads cfg current.transfer current.parts.length emission)
    (counters : Pus13Ctx) :
    let chunk := (slice cfg.pus13PartSize current.transfer.unit current.parts.length).length
    let behind := session.behindPart chunk counters
    let further : TransferLog := { current with parts := current.parts ++ [emission] }
    (behind.state = .idle ∧ further.Reassembled cfg) ∨
      (behind.state = .active ∧ Transferring cfg behind further) := by
  intro chunk behind further
  have inOrder : further.InOrder cfg := transferring.inOrder.emit reads
  have length : further.parts.length = current.parts.length + 1 := List.length_append
  have fits := partCount_le limits transferring.admitted
  have unfinished := transferring.unfinished
  have next : (session.nextPart + 1).toNat = current.parts.length + 1 := by
    simp only [UInt16.toNat_add, transferring.nextPart, UInt16.reduceToNat]
    omega
  have isLast : session.nextPart + 1 ≥ session.totalParts ↔
      current.transfer.partCount cfg ≤ current.parts.length + 1 := by
    rw [ge_iff_le, UInt16.le_iff_toNat_le, next, transferring.totalParts]
  by_cases last : session.nextPart + 1 ≥ session.totalParts
  · have counted := isLast.mp last
    refine .inl ⟨if_pos last, inOrder.reassembled limits.partSize ?_⟩
    show further.parts.length = current.transfer.partCount cfg
    omega
  · have more := mt isLast.mpr last
    refine .inr ⟨(if_neg last).trans active, ?_⟩
    have begun := (lt_ceilDiv_iff limits.partSize current.transfer.unit.length
      (current.parts.length + 1)).mp (Nat.lt_of_not_le more)
    have full : chunk = cfg.pus13PartSize := by
      rw [Nat.add_mul, Nat.one_mul] at begun
      show (slice _ _ _).length = _
      rw [slice_length]
      omega
    refine
      { inOrder := inOrder
        unfinished := ?_
        admitted := transferring.admitted
        unit := transferring.unit
        transactionId := transferring.transactionId
        nextPart := next.trans length.symm
        totalParts := transferring.totalParts
        cursor := ?_ }
    · show further.parts.length < current.transfer.partCount cfg
      omega
    · show session.cursor + chunk = further.parts.length * cfg.pus13PartSize
      rw [transferring.cursor, full, length, Nat.add_mul, Nat.one_mul]

/-! ### Every run -/

/-- What a call answers. A transfer starts on an idle session only; a part goes out
exactly when a transfer is going on and its octets fit, and takes one sequence count;
every other call leaves session, count and transfers alone. -/
def DownlinkAnswers (cfg : Config) (downlink : Downlink) : LargedataOp → DownlinkReply → Prop
  | .start transactionId unit, reply =>
      (downlink.session.state = .idle ∧ 1 ≤ unit.length ∧ unit.length ≤ cfg.largedataUnitMax →
        reply.returned = .started .ok ∧ reply.downlink.session.state = .active ∧
          reply.downlink.tmSeqCount = downlink.tmSeqCount ∧
          reply.downlink.logs =
            { transfer := { transactionId := transactionId, unit := unit }, parts := [] } ::
              downlink.logs) ∧
      (downlink.session.state = .active → ∃ status, status ≠ .ok ∧
        (1 ≤ unit.length → status = .errBusy) ∧
        reply = { returned := .started status, downlink := downlink })
  | .nextPart request, reply =>
      (downlink.session.state = .idle →
        reply = { returned := .part (.ok none), downlink := downlink }) ∧
      (downlink.session.state = .active → ∃ current earlier,
        downlink.logs = current :: earlier ∧
          (nextPartSize cfg current ≤ request.outCap → ∃ packet,
            reply.returned = .part (.ok (some packet)) ∧
              reply.downlink.tmSeqCount.toNat = (downlink.tmSeqCount.toNat + 1) % 2 ^ 14 ∧
              reply.downlink.logs =
                { current with
                  parts := current.parts ++
                    [{ request := request
                       tmSeqCount := downlink.tmSeqCount
                       packet := packet }] } :: earlier) ∧
          (request.outCap < nextPartSize cfg current → ∃ status,
            reply = { returned := .part (.error status), downlink := downlink }))
  | .otherSender _, reply =>
      reply.downlink.session = downlink.session ∧ reply.downlink.logs = downlink.logs

theorem downlinkStep_start {cfg : Config} (limits : cfg.LargedataLimits) {downlink : Downlink}
    (downlinked : Downlinked cfg downlink) (transactionId : UInt16) (unit : List UInt8) :
    let reply := downlinkStep cfg downlink (.start transactionId unit)
    Downlinked cfg reply.downlink ∧
      DownlinkAnswers cfg downlink (.start transactionId unit) reply := by
  intro reply
  rcases largedataStart_cases cfg downlink.session transactionId unit with
    ⟨status, failed, refused⟩ | ⟨nonempty, idle, admitted, session, accepted, started⟩
  · have unchanged : reply = { returned := .started status, downlink := downlink } := by
      simp only [reply, downlinkStep, refused, if_neg failed]
    refine ⟨by rw [unchanged]; exact downlinked, ?_, ?_⟩
    · rintro ⟨idle, nonempty, admitted⟩
      have empty : unit.length ≠ 0 := Nat.ne_of_gt nonempty
      have small : ¬unit.length > cfg.largedataUnitMax := Nat.not_lt.mpr admitted
      simp only [largedataStart, if_neg empty, if_neg small, idle, ne_eq, not_true_eq_false,
        if_false, Prod.mk.injEq] at refused
      exact absurd refused.1.symm failed
    · intro active
      refine ⟨status, failed, fun nonempty => ?_, unchanged⟩
      have empty : unit.length ≠ 0 := Nat.ne_of_gt nonempty
      have busy : downlink.session.state ≠ .idle := by
        rw [active]
        decide
      rw [largedataStart, if_neg empty, if_pos busy] at refused
      exact (congrArg Prod.fst refused).symm
  · have stepped : reply =
        { returned := .started .ok
          downlink :=
            { session := session
              tmSeqCount := downlink.tmSeqCount
              logs :=
                { transfer := { transactionId := transactionId, unit := unit }, parts := [] } ::
                  downlink.logs } } := by
      simp only [reply, downlinkStep, accepted, if_true]
    have active : session.state = .active := by rw [started]
    rw [stepped]
    refine ⟨⟨downlinked.seqCount, ?_, ?_⟩, ?_, ?_⟩
    · intro idle
      rw [active] at idle
      contradiction
    · intro _
      refine ⟨_, _, rfl, ?_, downlinked.idle idle⟩
      rw [started]
      exact transferring_started limits nonempty admitted
    · intro _
      exact ⟨rfl, active, rfl, rfl⟩
    · intro running
      rw [idle] at running
      contradiction

theorem downlinkStep_nextPart {cfg : Config} (limits : cfg.LargedataLimits) {downlink : Downlink}
    (downlinked : Downlinked cfg downlink) {request : TmRequest} (apid : request.apid ≤ 0x7FF) :
    let reply := downlinkStep cfg downlink (.nextPart request)
    Downlinked cfg reply.downlink ∧ DownlinkAnswers cfg downlink (.nextPart request) reply := by
  intro reply
  cases state : downlink.session.state with
  | idle =>
      have unchanged : reply = { returned := .part (.ok none), downlink := downlink } := by
        have resting : downlink.session.state ≠ .active := by
          rw [state]
          decide
        simp only [reply, downlinkStep, largedataNextPart, if_pos resting]
      refine ⟨by rw [unchanged]; exact downlinked, fun _ => unchanged, fun active => ?_⟩
      rw [state] at active
      contradiction
  | active =>
      obtain ⟨current, earlier, logs, transferring, whole⟩ := downlinked.active state
      have resting (idle : downlink.session.state = .idle) :
          reply = { returned := .part (.ok none), downlink := downlink } := by
        rw [state] at idle
        contradiction
      rcases transferring.nextPart_cases limits state downlinked.seqCount apid with
        ⟨short, status, refused⟩ | ⟨room, packet, counters, emitted, reads⟩
      · have unchanged : reply = { returned := .part (.error status), downlink := downlink } := by
          simp only [reply, downlinkStep, refused]
        refine ⟨by rw [unchanged]; exact downlinked, resting, fun _ => ?_⟩
        refine ⟨current, earlier, logs, fun room => ?_, fun _ => ⟨status, unchanged⟩⟩
        exact absurd short (Nat.not_lt.mpr room)
      · have stepped : reply =
            { returned := .part (.ok (some packet))
              downlink :=
                { session := downlink.session.behindPart
                    (slice cfg.pus13PartSize current.transfer.unit current.parts.length).length
                    counters
                  tmSeqCount := tmSeqNext downlink.tmSeqCount
                  logs :=
                    { current with
                      parts := current.parts ++
                        [{ request := request
                           tmSeqCount := downlink.tmSeqCount
                           packet := packet }] } :: earlier } } := by
          simp only [reply, downlinkStep, emitted, logs, recordPart]
        rw [stepped]
        refine ⟨?_, ?_, fun _ => ?_⟩
        · rcases transferring.emit limits state reads counters with
            ⟨idle, reassembled⟩ | ⟨active, further⟩
          · refine ⟨tmSeqNext_le _, fun _ => ?_, fun active => ?_⟩
            · exact List.forall_mem_cons.mpr ⟨reassembled, whole⟩
            · rw [show _ = LargedataState.idle from idle] at active
              contradiction
          · refine ⟨tmSeqNext_le _, fun idle => ?_, fun _ => ⟨_, _, rfl, further, whole⟩⟩
            rw [show _ = LargedataState.active from active] at idle
            contradiction
        · intro idle
          rw [state] at idle
          contradiction
        · refine ⟨current, earlier, logs, fun _ => ⟨packet, rfl, ?_, rfl⟩, fun short => ?_⟩
          · exact tmSeqNext_toNat downlink.tmSeqCount
          · exact absurd room (Nat.not_le.mpr short)

theorem downlinkStep_downlinked {cfg : Config} (limits : cfg.LargedataLimits)
    {downlink : Downlink} (downlinked : Downlinked cfg downlink) {op : LargedataOp}
    (inRange : op.InRange) :
    Downlinked cfg (downlinkStep cfg downlink op).downlink ∧
      DownlinkAnswers cfg downlink op (downlinkStep cfg downlink op) := by
  cases op with
  | start transactionId unit => exact downlinkStep_start limits downlinked transactionId unit
  | nextPart request => exact downlinkStep_nextPart limits downlinked inRange
  | otherSender tmSeqCount =>
      exact ⟨⟨inRange, downlinked.idle, downlinked.active⟩, rfl, rfl⟩

theorem downlinkRun_downlinked {cfg : Config} (limits : cfg.LargedataLimits)
    {downlink : Downlink} (downlinked : Downlinked cfg downlink) (ops : List LargedataOp)
    (inRange : ∀ op ∈ ops, op.InRange) : Downlinked cfg (downlinkRun cfg downlink ops) := by
  apply List.foldlRecOn ops _ downlinked
  intro reached invariant op member
  exact (downlinkStep_downlinked limits invariant (inRange op member)).1

/-- Whatever is called in whatever order: each transfer that ended was received whole
and in order, one may be going on, and the next call is answered as it has to be. -/
theorem downlinkRun_reassembles (cfg : Config) (limits : cfg.LargedataLimits)
    (tmSeqCount : UInt16) (seqCount : tmSeqCount ≤ 0x3FFF) (ops : List LargedataOp)
    (inRange : ∀ op ∈ ops, op.InRange) :
    let downlink := downlinkRun cfg (downlinkBoot tmSeqCount) ops
    Downlinked cfg downlink ∧
      ∀ op : LargedataOp, op.InRange →
        DownlinkAnswers cfg downlink op (downlinkStep cfg downlink op) := by
  intro downlink
  have downlinked :=
    downlinkRun_downlinked limits (downlinkBoot_downlinked cfg seqCount) ops inRange
  exact ⟨downlinked, fun op admitted => (downlinkStep_downlinked limits downlinked admitted).2⟩

theorem Config.default_largedataLimits : defaultConfig.LargedataLimits := by
  constructor <;> decide

/-- A unit of two parts, each asked for again in a larger buffer, with a report of
another sender in between. -/
theorem downlinkRun_reassembles_retry :
    let request (outCap : Nat) : TmRequest :=
      { apid := 0x2A, nowSeconds := 7, destinationId := 0, outCap := outCap }
    let downlink := downlinkRun defaultConfig (downlinkBoot 0x3FFF)
      [.start 9 (List.replicate 100 0xA5), .nextPart (request 87), .nextPart (request 88),
        .otherSender 1, .nextPart (request 59), .nextPart (request 60)]
    Downlinked defaultConfig downlink ∧ downlink.session.state = .idle ∧
      downlink.logs.map (fun log => log.parts.length) = [2] := by
  intro request downlink
  have downlinked := downlinkRun_reassembles defaultConfig Config.default_largedataLimits 0x3FFF
    (by decide)
    [.start 9 (List.replicate 100 0xA5), .nextPart (request 87), .nextPart (request 88),
      .otherSender 1, .nextPart (request 59), .nextPart (request 60)]
    (by decide)
  exact ⟨downlinked.1, by decide +kernel, by decide +kernel⟩

end FswCore
