import FswCore.Pus.Emission

/-!
Contract: the reports around a handler and the burst of one telecommand.

Owns:
- which verification reports a telecommand is answered with, and what they say;
- the burst of one telecommand is at most three complete packets in at most
  `MIGRIS_TC_ROUTER_MAX_TM` octets, and no builder runs out of space.

Does not own: what a handler does to a store.
-/

namespace FswCore

variable {cfg : Config}

/-! ### Verdicts -/

/-- The failure codes of the acceptance stage. -/
def Pus1FailureCode.OfAcceptance (fc : Pus1FailureCode) : Prop :=
  fc = .lengthError ∨ fc = .crcFailure ∨ fc = .badPusVersion ∨ fc = .unknownService

/-- What the acceptance checks say of an addressed telecommand. -/
structure Verdict (tc : List UInt8) (v : TcAcceptResult) : Prop where
  header : ccsdsPrimaryHeaderSize ≤ tc.length
  rejected : v.fc ≠ .none → v.fc.OfAcceptance
  routable : v.fc = .none → v.serviceType ≠ pusServiceVerification

theorem verdict_rejected {tc : List UInt8} {v : TcAcceptResult}
    (header : ccsdsPrimaryHeaderSize ≤ tc.length) (rejected : v.fc.OfAcceptance) :
    Verdict tc v where
  header := header
  rejected := fun _ => rejected
  routable := by
    intro accepted
    rw [accepted, Pus1FailureCode.OfAcceptance] at rejected
    simp at rejected

theorem tcAccept_verdict {tc : List UInt8} {expectedApid : UInt16}
    (addressed : (tcAccept tc expectedApid).addressed = true) :
    Verdict tc (tcAccept tc expectedApid) := by
  have header : ccsdsPrimaryHeaderSize ≤ tc.length := by
    by_contra short
    rw [tcAccept, ccsdsPrimaryUnpack, if_pos (Nat.lt_of_not_le short)] at addressed
    contradiction
  simp only [tcAccept] at addressed ⊢
  cases unpacked : ccsdsPrimaryUnpack tc with
  | error _ => simp [unpacked] at addressed
  | ok primary =>
      simp only [unpacked] at addressed ⊢
      cases read : pusTcSecondaryUnpack (tc.drop ccsdsPrimaryHeaderSize) with
      | error _ =>
          simp only [read] at addressed ⊢
          split_ifs at addressed ⊢ with framing address length
          all_goals exact verdict_rejected header (.inl rfl)
      | ok sec =>
          simp only [read] at addressed ⊢
          split_ifs at addressed ⊢ with framing address length checksum version service
          · exact verdict_rejected header (.inl rfl)
          · exact verdict_rejected header (.inr (.inl rfl))
          · exact verdict_rejected header (.inr (.inr (.inl rfl)))
          · exact verdict_rejected header (.inr (.inr (.inr rfl)))
          · refine ⟨header, fun failed => absurd rfl failed, fun _ verification => service ?_⟩
            simp only at verification
            rw [verification]
            decide

/-! ### Verification reports -/

/-- The report of a verdict on a telecommand: the first four octets of the
telecommand, and the failure code of a failure. -/
def verificationReport (tc : List UInt8) (kindSuccess kindFailure : TmKind)
    (destinationId : UInt16) (fc : Pus1FailureCode) : Emission :=
  { kind := if fc = .none then kindSuccess else kindFailure
    destinationId := destinationId
    source := tc.take 4 ++ if fc = .none then [] else [fc.code] }

def acceptanceReport (tc : List UInt8) (destinationId : UInt16) (fc : Pus1FailureCode) :
    Emission :=
  verificationReport tc .acceptanceSuccess .acceptanceFailure destinationId fc

def completionReport (tc : List UInt8) (destinationId : UInt16) (fc : Pus1FailureCode) :
    Emission :=
  verificationReport tc .completionSuccess .completionFailure destinationId fc

/-- The octets written so far are these emissions, within this size. -/
structure Written (ctx : RouterCtx cfg) (nowSeconds : UInt32) (emissions : List Emission)
    (size : Nat) (written : RouterOutput cfg) : Prop where
  identity : SameIdentity written.ctx ctx
  fits : written.bufTooSmall = false
  length : written.out.length ≤ size
  emits : Emits ctx.apid nowSeconds ctx.counters emissions written.out written.ctx.counters

theorem written_start (ctx : RouterCtx cfg) (nowSeconds : UInt32) :
    Written ctx nowSeconds [] 0 { ctx := ctx, out := [], bufTooSmall := false } where
  identity := ⟨rfl, rfl, rfl, rfl⟩
  fits := rfl
  length := Nat.le_refl _
  emits := .nil _

/-- A verification report with room for it is written behind the others. -/
theorem Written.verify {ctx : RouterCtx cfg} {nowSeconds : UInt32} {emissions : List Emission}
    {size outCap : Nat} {written : RouterOutput cfg}
    (before : Written ctx nowSeconds emissions size written) (addressable : ctx.Addressable)
    {tc : List UInt8} (header : ccsdsPrimaryHeaderSize ≤ tc.length)
    (kindSuccess kindFailure : TmKind) (destinationId : UInt16) (fc : Pus1FailureCode)
    (room : size + (22 + if fc = .none then 0 else 1) ≤ outCap) :
    Written ctx nowSeconds
      (emissions ++ [verificationReport tc kindSuccess kindFailure destinationId fc])
      (size + (22 + if fc = .none then 0 else 1))
      (written.verify (fun request counters =>
        buildReport request counters (tc.take pus1RequestIdSize) fc kindSuccess kindFailure)
        nowSeconds destinationId outCap) := by
  have identified : (tc.take pus1RequestIdSize).length = pus1RequestIdSize := by
    rw [List.length_take]
    simp only [pus1RequestIdSize, ccsdsPrimaryHeaderSize] at header ⊢
    omega
  have length := before.length
  have serves : (routerRequest written.ctx nowSeconds destinationId
      (outCap - written.out.length)).Serves written.ctx.counters
        (22 + if fc = .none then 0 else 1) :=
    { apid := by rw [routerRequest, before.identity.apid]; exact addressable.apid
      seqCount := before.emits.seqCount_le addressable.seqCount
      room := by simp only [routerRequest]; omega }
  obtain ⟨tm, built, reports⟩ :=
    buildReport_reports identified fc kindSuccess kindFailure serves
  have emitted := Emits.one reports
  rw [pus1Source, List.take_take, Nat.min_self] at emitted
  simp only [routerRequest, before.identity.apid] at emitted
  simp only [RouterOutput.verify, built]
  exact
    { identity := ⟨before.identity.apid, before.identity.tcAcceptedCount,
        before.identity.tcRejectedCount, before.identity.sinkWired⟩
      fits := before.fits
      length := by
        rw [List.length_append]
        exact Nat.add_le_add length reports.length
      emits := before.emits.append emitted }

/-- Room for a verification report behind nothing, or behind the largest burst it
can follow. -/
theorem verification_room (fc : Pus1FailureCode) :
    22 + (if fc = .none then tcRouterMaxReport else 0) + (22 + if fc = .none then 0 else 1) ≤
      tcRouterMaxTm := by
  split <;> decide

/-! ### Before the handler -/

theorem routerCount_labels (ctx : RouterCtx cfg) (v : TcAcceptResult) :
    (routerCount ctx v).apid = ctx.apid ∧ (routerCount ctx v).counters = ctx.counters := by
  unfold routerCount
  split <;> exact ⟨rfl, rfl⟩

/-- A context with the stores of a ready one is ready. -/
theorem RouterCtx.Ready.of_stores {ctx other : RouterCtx cfg} (ready : ctx.Ready)
    (apid : other.apid = ctx.apid) (seqCount : other.counters.tmSeqCount ≤ 0x3FFF)
    (stores : other.stores = ctx.stores) : other.Ready where
  limits := ready.limits
  apid := by rw [apid]; exact ready.apid
  seqCount := seqCount
  hkParams := by
    have same : other.hkstore = ctx.hkstore := congrArg RouterStores.hkstore stores
    intro hkstore wired
    exact ready.hkParams hkstore (same.symm.trans wired)

theorem RouterCtx.Ready.count {ctx : RouterCtx cfg} (ready : ctx.Ready) (v : TcAcceptResult) :
    (routerCount ctx v).Ready := by
  obtain ⟨apid, counters⟩ := routerCount_labels ctx v
  exact ready.of_stores apid (by rw [counters]; exact ready.seqCount) (routerCount_stores ctx v)

theorem routerAcceptance_written {ctx : RouterCtx cfg} (addressable : ctx.Addressable)
    (v : TcAcceptResult) (nowSeconds : UInt32) {tc : List UInt8}
    (header : ccsdsPrimaryHeaderSize ≤ tc.length) (destinationId : UInt16) {outCap : Nat}
    (room : tcRouterMaxTm ≤ outCap) :
    Written ctx nowSeconds [acceptanceReport tc destinationId v.fc]
      (22 + if v.fc = .none then 0 else 1)
      (routerAcceptance ctx v nowSeconds tc destinationId outCap) := by
  have space : 0 + (22 + if v.fc = .none then 0 else 1) ≤ outCap := by
    have whole := verification_room v.fc
    omega
  have written := (written_start ctx nowSeconds).verify addressable header .acceptanceSuccess
    .acceptanceFailure destinationId v.fc space
  rw [Nat.zero_add] at written
  exact written

/-- The acceptance reports of a telecommand whose ack flags can be trusted. -/
def acceptanceReports (tc : List UInt8) (v : TcAcceptResult) : List Emission :=
  if v.ackFlags &&& pusTcAckAcceptance ≠ 0 then [acceptanceReport tc v.sourceId v.fc] else []

theorem routerAcceptanceRequested_written {ctx : RouterCtx cfg} (addressable : ctx.Addressable)
    (v : TcAcceptResult) (nowSeconds : UInt32) {tc : List UInt8}
    (header : ccsdsPrimaryHeaderSize ≤ tc.length) {outCap : Nat}
    (room : tcRouterMaxTm ≤ outCap) :
    Written ctx nowSeconds (acceptanceReports tc v) (22 + if v.fc = .none then 0 else 1)
      (routerAcceptanceRequested ctx v nowSeconds tc outCap) := by
  unfold routerAcceptanceRequested acceptanceReports
  split
  · exact routerAcceptance_written addressable v nowSeconds header v.sourceId room
  · have start := written_start ctx nowSeconds
    exact ⟨start.identity, start.fits, Nat.zero_le _, start.emits⟩

/-! ### The handler and what follows -/

def completionReports (tc : List UInt8) (v : TcAcceptResult) (execFc : Pus1FailureCode) :
    List Emission :=
  if v.ackFlags &&& pusTcAckCompletion ≠ 0 then [completionReport tc v.sourceId execFc] else []

/-- What the output of a dispatch is at its end. -/
def DispatchReply.written (reply : DispatchReply cfg) : RouterOutput cfg :=
  { ctx := reply.ctx, out := reply.out, bufTooSmall := reply.bufTooSmall }

theorem routerAccepted_written {ctx : RouterCtx cfg} (ready : ctx.Ready) {v : TcAcceptResult}
    {nowSeconds : UInt32} {tc : List UInt8} (header : ccsdsPrimaryHeaderSize ≤ tc.length)
    {outCap : Nat} (room : tcRouterMaxTm ≤ outCap) {emissions : List Emission}
    {before : RouterOutput cfg} (written : Written ctx nowSeconds emissions 22 before)
    (stores : before.ctx.stores = ctx.stores) :
    ∃ routed service, (routerAccepted before v nowSeconds tc outCap).routed = some routed ∧
      (routed.execFc = .none ∨ routed.execFc = .unknownSubtype ∨ routed.execFc = .execFailure) ∧
      OwnReport v service ∧
      (∀ emission ∈ service, 18 + emission.source.length ≤ routed.out.length) ∧
      Written ctx nowSeconds
        (emissions ++ service ++ completionReports tc v routed.execFc) tcRouterMaxTm
        (routerAccepted before v nowSeconds tc outCap).written := by
  have beforeReady : before.ctx.Ready :=
    ready.of_stores written.identity.apid (written.emits.seqCount_le ready.seqCount) stores
  have length := written.length
  have space : tcRouterMaxReport ≤ outCap - before.out.length := by
    simp only [tcRouterMaxReport, tcRouterMaxTm] at room ⊢
    omega
  have contract := routerRoute_contract beforeReady v nowSeconds tc space
  generalize routes : routerRoute before.ctx v nowSeconds tc (outCap - before.out.length) =
    routed at contract
  obtain ⟨service, own, emits⟩ := contract.emits
  have sized := emits.source_le
  rw [written.identity.apid] at emits
  have executed : Written ctx nowSeconds (emissions ++ service)
      (22 + if routed.execFc = .none then tcRouterMaxReport else 0)
      { ctx := routed.ctx
        out := before.out ++ routed.out
        bufTooSmall := before.bufTooSmall || routed.bufTooSmall } :=
    { identity := contract.identity.trans written.identity
      fits := by simp only [written.fits, contract.fits, Bool.or_false]
      length := by
        rw [List.length_append]
        apply Nat.add_le_add length
        split
        · exact contract.length
        · rename_i failed
          rw [contract.failed failed]
          exact Nat.le_refl _
      emits := written.emits.append emits }
  have whole := verification_room routed.execFc
  refine ⟨routed, service, congrArg some routes, contract.codes, own, sized, ?_⟩
  simp only [DispatchReply.written, routerAccepted, routes, completionReports]
  split
  · have completed := executed.verify ready.addressable header .completionSuccess
      .completionFailure v.sourceId routed.execFc (Nat.le_trans whole room)
    exact ⟨completed.identity, completed.fits, Nat.le_trans completed.length whole,
      completed.emits⟩
  · rw [List.append_nil]
    exact ⟨executed.identity, executed.fits,
      Nat.le_trans executed.length (by omega), executed.emits⟩

/-! ### The verification protocol -/

/-- The octets of a dispatch are these emissions, in this order. -/
def DispatchReply.Emits (reply : DispatchReply cfg) (ctx : RouterCtx cfg) (nowSeconds : UInt32)
    (emissions : List Emission) : Prop :=
  FswCore.Emits ctx.apid nowSeconds ctx.counters emissions reply.out reply.ctx.counters

/-- How an addressed telecommand with verdict `v` is answered. -/
structure VerificationProtocol (ctx : RouterCtx cfg) (nowSeconds : UInt32) (tc : List UInt8)
    (v : TcAcceptResult) (reply : DispatchReply cfg) : Prop where
  countAccepted : v.fc = .none →
    reply.ctx.tcAcceptedCount = ctx.tcAcceptedCount + 1 ∧
      reply.ctx.tcRejectedCount = ctx.tcRejectedCount
  countRejected : v.fc ≠ .none →
    reply.ctx.tcRejectedCount = ctx.tcRejectedCount + 1 ∧
      reply.ctx.tcAcceptedCount = ctx.tcAcceptedCount
  lengthError : v.fc = .lengthError →
    reply.Emits ctx nowSeconds [acceptanceReport tc 0 .lengthError]
  otherFailure : v.fc ≠ .none → v.fc ≠ .lengthError →
    reply.Emits ctx nowSeconds (acceptanceReports tc v)
  rejected : v.fc ≠ .none →
    v.fc.OfAcceptance ∧ reply.routed = none ∧
      reply.sinkReports =
        if ctx.sinkWired = false then []
        else
          [{ nowSeconds := nowSeconds
             severity := pus5SevLow
             eventId := pus5EvtTcRejected
             aux := [v.fc.code, v.serviceType, v.serviceSubtype] }]
  accepted : v.fc = .none →
    reply.sinkReports = [] ∧ v.serviceType ≠ pusServiceVerification ∧
      ∃ routed service, reply.routed = some routed ∧ OwnReport v service ∧
        (routed.execFc = .none ∨ routed.execFc = .unknownSubtype ∨
          routed.execFc = .execFailure) ∧
        reply.Emits ctx nowSeconds
          (acceptanceReports tc v ++ service ++ completionReports tc v routed.execFc)

/-- A burst counted from a counted context is one from the context itself. -/
theorem Written.counted {ctx : RouterCtx cfg} {v : TcAcceptResult} {nowSeconds : UInt32}
    {emissions : List Emission} {size : Nat} {written : RouterOutput cfg}
    (after : Written (routerCount ctx v) nowSeconds emissions size written) :
    Emits ctx.apid nowSeconds ctx.counters emissions written.out written.ctx.counters := by
  obtain ⟨apid, counters⟩ := routerCount_labels ctx v
  have emits := after.emits
  rwa [apid, counters] at emits

theorem routerRejected_protocol {ctx : RouterCtx cfg} {v : TcAcceptResult} {tc : List UInt8}
    {nowSeconds : UInt32} (verdict : Verdict tc v) (failed : v.fc ≠ .none)
    {emissions : List Emission} {size : Nat} {written : RouterOutput cfg}
    (after : Written (routerCount ctx v) nowSeconds emissions size written)
    (expected : emissions = if v.fc = .lengthError then [acceptanceReport tc 0 .lengthError]
      else acceptanceReports tc v) :
    VerificationProtocol ctx nowSeconds tc v (routerRejected written v nowSeconds) := by
  have counted : routerCount ctx v = { ctx with tcRejectedCount := ctx.tcRejectedCount + 1 } :=
    if_pos failed
  have rejectedCount := after.identity.tcRejectedCount.trans
    (congrArg RouterCtx.tcRejectedCount counted)
  have acceptedCount := after.identity.tcAcceptedCount.trans
    (congrArg RouterCtx.tcAcceptedCount counted)
  have emits := after.counted
  exact
    { countAccepted := fun accepted => absurd accepted failed
      countRejected := fun _ => ⟨rejectedCount, acceptedCount⟩
      lengthError := by
        intro wrongLength
        rw [expected, if_pos wrongLength] at emits
        exact emits
      otherFailure := by
        intro _ otherwise
        rw [expected, if_neg otherwise] at emits
        exact emits
      rejected := by
        intro _
        refine ⟨verdict.rejected failed, rfl, ?_⟩
        have sinkWired := after.identity.sinkWired.trans (congrArg RouterCtx.sinkWired counted)
        simp only [routerRejected, routerReportRejection, sinkWired]
      accepted := fun accepted => absurd accepted failed }

theorem routerAccepted_protocol {ctx : RouterCtx cfg} {v : TcAcceptResult} {tc : List UInt8}
    {nowSeconds : UInt32} (ready : ctx.Ready) (verdict : Verdict tc v) (accepted : v.fc = .none)
    {outCap : Nat} (room : tcRouterMaxTm ≤ outCap) :
    VerificationProtocol ctx nowSeconds tc v
      (routerAccepted (routerAcceptanceRequested (routerCount ctx v) v nowSeconds tc outCap) v
        nowSeconds tc outCap) := by
  have counted : routerCount ctx v = { ctx with tcAcceptedCount := ctx.tcAcceptedCount + 1 } :=
    if_neg (not_not.mpr accepted)
  have before := routerAcceptanceRequested_written (ready.count v).addressable v nowSeconds
    verdict.header room
  rw [accepted, if_pos rfl] at before
  obtain ⟨routed, service, routes, codes, own, _, after⟩ :=
    routerAccepted_written (v := v) (ready.count v) verdict.header room before
      (routerAcceptanceRequested_stores ..)
  have acceptedCount := after.identity.tcAcceptedCount.trans
    (congrArg RouterCtx.tcAcceptedCount counted)
  have rejectedCount := after.identity.tcRejectedCount.trans
    (congrArg RouterCtx.tcRejectedCount counted)
  exact
    { countAccepted := fun _ => ⟨acceptedCount, rejectedCount⟩
      countRejected := fun failed => absurd accepted failed
      lengthError := fun wrongLength => by rw [accepted] at wrongLength; contradiction
      otherFailure := fun failed => absurd accepted failed
      rejected := fun failed => absurd accepted failed
      accepted := fun _ => ⟨rfl, verdict.routable accepted, routed, service, routes, own, codes,
        after.counted⟩ }

/-- Every addressed telecommand is answered by the protocol. -/
theorem tcRouterDispatch_protocol (ctx : RouterCtx cfg) (ready : ctx.Ready)
    (nowSeconds : UInt32) (tc : List UInt8) (outCap : Nat) (room : tcRouterMaxTm ≤ outCap)
    (addressed : (tcAccept tc ctx.apid).addressed = true) :
    VerificationProtocol ctx nowSeconds tc (tcAccept tc ctx.apid)
      (tcRouterDispatch ctx nowSeconds tc outCap) := by
  have verdict := tcAccept_verdict addressed
  simp only [tcRouterDispatch, if_neg (Nat.not_lt.mpr room), addressed, Bool.true_eq_false,
    if_false]
  split_ifs with wrongLength failed
  · have failed : (tcAccept tc ctx.apid).fc ≠ .none := by
      rw [wrongLength]
      decide
    refine routerRejected_protocol verdict failed
      (routerAcceptance_written (ready.count _).addressable _ nowSeconds verdict.header 0 room) ?_
    rw [if_pos wrongLength, wrongLength]
  · refine routerRejected_protocol verdict failed
      (routerAcceptanceRequested_written (ready.count _).addressable _ nowSeconds verdict.header
        room) ?_
    rw [if_neg wrongLength]
  · exact routerAccepted_protocol ready verdict (not_not.mp failed) room

/-- A context with a datapool and one ground-created structure, before the last
sequence count. -/
def pollCtx : RouterCtx defaultConfig where
  apid := 0x2A
  counters :=
    { tmSeqCount := 0x3FFF
      pus1 := Vector.replicate 4 0
      pus5 := Vector.replicate 4 0
      pus17 := 0
      pus3 := 0xFF
      pus20 := 0
      pus11 := 0
      pus15 := 0 }
  tcAcceptedCount := 0xFFFFFFFF
  tcRejectedCount := 0
  rxRingOverflowDrops := 0
  sinkWired := true
  datapool := some
    { params := [{ id := 1, access := .readOnly, value := .u32 0x01020304 }], generation := 0 }
  schedule := none
  store := none
  hkstore := some (hkstoreRun defaultConfig [.call (.create 0x0100 [1, 1] 60)])

theorem pollCtx_ready : pollCtx.Ready where
  limits := Config.default_kconfigAdmitted.reportLimits
  apid := by decide
  seqCount := by decide
  hkParams := by
    apply hkParamsFit_of_reachable
    intro hkstore wired
    exact ⟨_, (Option.some.inj wired).symm⟩

/-- A poll of structure 0x0100 that asks for both reports. -/
def pollTc : List UInt8 :=
  [0x18, 0x2A, 0xC0, 0x00, 0x00, 0x08, 0x29, 0x03, 0x1B, 0x00, 0x05, 0x01, 0x00, 0x2E, 0x1B]

theorem tcRouterDispatch_protocol_poll :
    (tcAccept pollTc pollCtx.apid).fc = .none ∧
      VerificationProtocol pollCtx 7 pollTc (tcAccept pollTc pollCtx.apid)
        (tcRouterDispatch pollCtx 7 pollTc 128) :=
  ⟨by decide +kernel,
    tcRouterDispatch_protocol pollCtx pollCtx_ready 7 pollTc 128 (by decide) (by decide +kernel)⟩

/-! ### The burst -/

theorem acceptanceReports_length_le (tc : List UInt8) (v : TcAcceptResult) :
    (acceptanceReports tc v).length ≤ 1 := by
  unfold acceptanceReports
  split <;> simp

theorem completionReports_length_le (tc : List UInt8) (v : TcAcceptResult)
    (execFc : Pus1FailureCode) : (completionReports tc v execFc).length ≤ 1 := by
  unfold completionReports
  split <;> simp

/-- A dispatch writes at most three reports, and runs out of space for none. -/
theorem tcRouterDispatch_written {ctx : RouterCtx cfg} (ready : ctx.Ready) (nowSeconds : UInt32)
    (tc : List UInt8) {outCap : Nat} (room : tcRouterMaxTm ≤ outCap) :
    ∃ emissions, emissions.length ≤ 3 ∧
      (tcRouterDispatch ctx nowSeconds tc outCap).bufTooSmall = false ∧
      (tcRouterDispatch ctx nowSeconds tc outCap).out.length ≤ tcRouterMaxTm ∧
      (tcRouterDispatch ctx nowSeconds tc outCap).Emits ctx nowSeconds emissions := by
  have verdict (addressed : ¬(tcAccept tc ctx.apid).addressed = false) :
      Verdict tc (tcAccept tc ctx.apid) := tcAccept_verdict (Bool.not_eq_false _ ▸ addressed)
  simp only [tcRouterDispatch, if_neg (Nat.not_lt.mpr room)]
  generalize tcAccept tc ctx.apid = v at verdict ⊢
  have short : 22 + (if v.fc = .none then 0 else 1) ≤ tcRouterMaxTm := by
    have whole := verification_room v.fc
    omega
  split_ifs with ignored wrongLength failed
  · exact ⟨[], Nat.zero_le _, rfl, Nat.zero_le _, .nil _⟩
  · have after := routerAcceptance_written (ready.count v).addressable v nowSeconds
      (verdict ignored).header 0 room
    exact ⟨_, by simp, after.fits, Nat.le_trans after.length short, after.counted⟩
  · have after := routerAcceptanceRequested_written (ready.count v).addressable v nowSeconds
      (verdict ignored).header room
    exact ⟨_, Nat.le_trans (acceptanceReports_length_le ..) (by decide), after.fits,
      Nat.le_trans after.length short, after.counted⟩
  · have before := routerAcceptanceRequested_written (ready.count v).addressable v nowSeconds
      (verdict ignored).header room
    rw [if_pos (not_not.mp failed)] at before
    obtain ⟨routed, service, _, _, own, _, after⟩ :=
      routerAccepted_written (v := v) (ready.count v) (verdict ignored).header room before
        (routerAcceptanceRequested_stores ..)
    refine ⟨_, ?_, after.fits, after.length, after.counted⟩
    have first := acceptanceReports_length_le tc v
    have second := own.atMostOne
    have third := completionReports_length_le tc v routed.execFc
    simp only [List.length_append]
    omega

/-- The burst of one telecommand is at most three complete packets in at most
`MIGRIS_TC_ROUTER_MAX_TM` octets, numbered on from the context's sequence count;
no builder finds its buffer too small, and every counter is on by the packets it
counts. -/
theorem tcRouterDispatch_burst (ctx : RouterCtx cfg) (limits : cfg.ReportLimits)
    (addressable : ctx.apid ≤ 0x7FF) (inSequence : ctx.counters.tmSeqCount ≤ 0x3FFF)
    (reachable : ∀ hkstore, ctx.hkstore = some hkstore → ∃ events, hkstore = hkstoreRun cfg events)
    (nowSeconds : UInt32) (tc : List UInt8) (outCap : Nat) (room : tcRouterMaxTm ≤ outCap) :
    (tcRouterDispatch ctx nowSeconds tc outCap).bufTooSmall = false ∧
      (tcRouterDispatch ctx nowSeconds tc outCap).out.length ≤ tcRouterMaxTm ∧
      ∃ packets : List (List UInt8),
        (tcRouterDispatch ctx nowSeconds tc outCap).out = packets.flatten ∧
        packets.length ≤ 3 ∧
        Consecutive ctx.apid ctx.counters.tmSeqCount packets ∧
        (tcRouterDispatch ctx nowSeconds tc outCap).ctx.counters.tmSeqCount.toNat =
          (ctx.counters.tmSeqCount.toNat + packets.length) % 16384 ∧
        (∀ kind, (tcRouterDispatch ctx nowSeconds tc outCap).ctx.counters.msgCounter kind =
          ctx.counters.msgCounter kind + UInt8.ofNat (packets.countP (packetOfKind kind))) ∧
        (tcRouterDispatch ctx nowSeconds tc outCap).ctx.counters.pus5 = ctx.counters.pus5 := by
  obtain ⟨emissions, count, fits, length, emits⟩ := tcRouterDispatch_written
    ⟨limits, addressable, inSequence, hkParamsFit_of_reachable reachable⟩ nowSeconds tc room
  obtain ⟨packets, octets, packetCount, consecutive, kinds⟩ := emits.packets inSequence
  refine ⟨fits, length, packets, octets, Nat.le_trans (Nat.le_of_eq packetCount) count,
    consecutive, ?_, ?_, ?_⟩
  · rw [emits.seqCount inSequence, packetCount]
  · intro kind
    rw [emits.msgCounter kind, kinds kind]
  · exact emits.pus5

/-- Three packets, across the wrap of the sequence count. -/
theorem tcRouterDispatch_burst_poll :
    (tcRouterDispatch pollCtx 7 pollTc 128).out.length = 22 + 28 + 22 ∧
      ∃ packets : List (List UInt8),
        (tcRouterDispatch pollCtx 7 pollTc 128).out = packets.flatten ∧
        Consecutive 0x2A 0x3FFF packets :=
  ⟨by decide +kernel,
    have ⟨_, _, packets, octets, _, consecutive, _⟩ :=
      tcRouterDispatch_burst pollCtx pollCtx_ready.limits (by decide) (by decide)
        (fun _ wired => ⟨_, (Option.some.inj wired).symm⟩) 7 pollTc 128 (by decide)
    ⟨packets, octets, consecutive⟩⟩

end FswCore
