import FswCore.Pus.Atomicity

/-!
Contract: the router's own counts, and its calls of the event sink.

Owns:
- `RouterTally`, the address, the verdict counts and the sink of a context;
- a dispatch counts an addressed telecommand once, by its verdict, and reports it to
  the sink exactly if it is rejected.

Nothing is asked of the context, unlike in the protocol of the reports.
-/

namespace FswCore

variable {cfg : Config}

structure RouterTally where
  apid : UInt16
  tcAcceptedCount : UInt32
  tcRejectedCount : UInt32
  sinkWired : Bool
deriving DecidableEq, Repr

def RouterCtx.tally (ctx : RouterCtx cfg) : RouterTally where
  apid := ctx.apid
  tcAcceptedCount := ctx.tcAcceptedCount
  tcRejectedCount := ctx.tcRejectedCount
  sinkWired := ctx.sinkWired

/-- A telecommand that is not addressed is not counted. -/
def RouterTally.after (tally : RouterTally) (v : TcAcceptResult) : RouterTally :=
  if v.addressed = false then tally
  else if v.fc ≠ .none then { tally with tcRejectedCount := tally.tcRejectedCount + 1 }
  else { tally with tcAcceptedCount := tally.tcAcceptedCount + 1 }

/-- The router accepts, or rejects, a telecommand that is addressed to it. -/
def TcAcceptResult.Accepted (v : TcAcceptResult) : Prop := v.addressed = true ∧ v.fc = .none

instance (v : TcAcceptResult) : Decidable v.Accepted := inferInstanceAs (Decidable (_ ∧ _))

def TcAcceptResult.Rejected (v : TcAcceptResult) : Prop := v.addressed = true ∧ v.fc ≠ .none

instance (v : TcAcceptResult) : Decidable v.Rejected := inferInstanceAs (Decidable (_ ∧ _))

theorem routeReturn_tally {status : Type} [DecidableEq status] (unknownSubtype : status → Bool)
    (bufTooSmall : status) (ctx : RouterCtx cfg) (result : Except status (Option TmOut)) :
    (routeReturn unknownSubtype bufTooSmall ctx result).ctx.tally = ctx.tally := by
  rcases result with _ | _ | _ <;> rfl

theorem routerPus3_tally (ctx : RouterCtx cfg) (v : TcAcceptResult) (nowSeconds : UInt32)
    (tc : List UInt8) (outCap : Nat) :
    (routerPus3 ctx v nowSeconds tc outCap).ctx.tally = ctx.tally := by
  simp only [routerPus3]
  split_ifs
  · simp only [routerPus3Poll, routerPus3PollFramework, routerPus3PollDynamic]
    split
    · rfl
    split
    · exact routeReturn_tally ..
    split
    · rfl
    split
    · rfl
    split
    · rfl
    · exact routeReturn_tally ..
  · simp only [routerPus3Manage]
    split <;> rfl
  · rfl

theorem routerRoute_tally (ctx : RouterCtx cfg) (v : TcAcceptResult) (nowSeconds : UInt32)
    (tc : List UInt8) (outCap : Nat) :
    (routerRoute ctx v nowSeconds tc outCap).ctx.tally = ctx.tally := by
  rcases routerRoute_cases ctx v nowSeconds tc outCap with unrouted | ⟨entry, member, _, routed⟩
  · rw [unrouted]
    rfl
  · rw [routed]
    simp only [routerDispatchTable, List.mem_cons, List.not_mem_nil, or_false] at member
    rcases member with rfl | rfl | rfl | rfl | rfl
    · exact routeReturn_tally ..
    · exact routerPus3_tally ctx v nowSeconds tc outCap
    · simp only [routerPus20]
      split
      · rfl
      · exact routeReturn_tally ..
    · simp only [routerPus11]
      split
      · rfl
      · exact routeReturn_tally ..
    · simp only [routerPus15]
      split
      · rfl
      · exact routeReturn_tally ..

theorem RouterOutput.verify_tally (written : RouterOutput cfg)
    (build : TmRequest → PusCounters → Option TmOut) (nowSeconds : UInt32)
    (destinationId : UInt16) (outCap : Nat) :
    (written.verify build nowSeconds destinationId outCap).ctx.tally = written.ctx.tally := by
  unfold RouterOutput.verify
  split <;> rfl

theorem routerAcceptanceRequested_tally (ctx : RouterCtx cfg) (v : TcAcceptResult)
    (nowSeconds : UInt32) (tc : List UInt8) (outCap : Nat) :
    (routerAcceptanceRequested ctx v nowSeconds tc outCap).ctx.tally = ctx.tally := by
  unfold routerAcceptanceRequested
  split
  · exact RouterOutput.verify_tally ..
  · rfl

theorem routerAccepted_tally (written : RouterOutput cfg) (v : TcAcceptResult)
    (nowSeconds : UInt32) (tc : List UInt8) (outCap : Nat) :
    (routerAccepted written v nowSeconds tc outCap).ctx.tally = written.ctx.tally := by
  simp only [routerAccepted]
  split
  · rw [RouterOutput.verify_tally]
    exact routerRoute_tally ..
  · exact routerRoute_tally ..

theorem routerCount_tally (ctx : RouterCtx cfg) {v : TcAcceptResult}
    (addressed : v.addressed = true) : (routerCount ctx v).tally = ctx.tally.after v := by
  rw [RouterTally.after, if_neg (by simp [addressed]), routerCount]
  split <;> rfl

/-- The event of a rejection. -/
def rejectionReport (nowSeconds : UInt32) (v : TcAcceptResult) : SinkReport where
  nowSeconds := nowSeconds
  severity := pus5SevLow
  eventId := pus5EvtTcRejected
  aux := [v.fc.code, v.serviceType, v.serviceSubtype]

theorem routerReportRejection_eq {ctx : RouterCtx cfg} (wired : ctx.tally.sinkWired = true)
    (nowSeconds : UInt32) (v : TcAcceptResult) :
    routerReportRejection ctx nowSeconds v = [rejectionReport nowSeconds v] := by
  rw [routerReportRejection, if_neg]
  · rfl
  · intro unwired
    exact Bool.noConfusion (wired.symm.trans unwired)

/-- The counts and the sink behind a dispatch, from the verdict. -/
structure TallyAfter (ctx : RouterCtx cfg) (nowSeconds : UInt32) (v : TcAcceptResult)
    (reply : DispatchReply cfg) : Prop where
  tally : reply.ctx.tally = ctx.tally.after v
  sinkReports : ctx.sinkWired = true →
    reply.sinkReports = if v.Rejected then [rejectionReport nowSeconds v] else []

theorem routerRejected_tally {ctx : RouterCtx cfg} {v : TcAcceptResult} {nowSeconds : UInt32}
    {written : RouterOutput cfg} (addressed : v.addressed = true) (failed : v.fc ≠ .none)
    (same : written.ctx.tally = (routerCount ctx v).tally) :
    TallyAfter ctx nowSeconds v (routerRejected written v nowSeconds) where
  tally := same.trans (routerCount_tally ctx addressed)
  sinkReports wired := by
    have kept : (routerCount ctx v).tally.sinkWired = ctx.sinkWired := by
      rw [routerCount]
      split <;> rfl
    rw [if_pos (show v.Rejected from ⟨addressed, failed⟩)]
    exact routerReportRejection_eq ((congrArg RouterTally.sinkWired same).trans
      (kept.trans wired)) nowSeconds v

theorem tcRouterDispatch_tally (ctx : RouterCtx cfg) (nowSeconds : UInt32) (tc : List UInt8)
    {outCap : Nat} (room : tcRouterMaxTm ≤ outCap) :
    TallyAfter ctx nowSeconds (tcAccept tc ctx.apid)
      (tcRouterDispatch ctx nowSeconds tc outCap) := by
  simp only [tcRouterDispatch, if_neg (Nat.not_lt.mpr room)]
  split_ifs with ignored wrongLength failed
  · refine ⟨by rw [RouterTally.after, if_pos ignored], fun _ => ?_⟩
    rw [if_neg fun rejected => Bool.noConfusion (ignored.symm.trans rejected.1)]
  · have addressed := eq_true_of_ne_false ignored
    exact routerRejected_tally addressed (by rw [wrongLength]; decide)
      (RouterOutput.verify_tally ..)
  · have addressed := eq_true_of_ne_false ignored
    exact routerRejected_tally addressed failed (routerAcceptanceRequested_tally ..)
  · have addressed := eq_true_of_ne_false ignored
    refine ⟨?_, fun _ => (if_neg fun rejected => rejected.2 (not_not.mp failed)).symm⟩
    rw [routerAccepted_tally, routerAcceptanceRequested_tally, routerCount_tally ctx addressed]

end FswCore
