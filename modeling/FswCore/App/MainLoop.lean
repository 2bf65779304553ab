import FswCore.Fdir.Model
import FswCore.Pus.Router

/-!
Contract: the telecommand paths of the main loop of
`samples/tc_uart/src/main.c`: the UART framer and the release tick.

A burst goes out on the UART and is tapped into the packet store the router's
context points to. The router's calls of its sink reach the FDIR context, which
may command the mode manager. The interrupt's drop counter is part of the state,
for the loop to read.
-/

namespace FswCore

open Library Library.BigEndian

/-- `TC_BUF_SIZE`. -/
def tcBufSize : Nat := 192

structure LoopState (cfg : Config) where
  ctx : RouterCtx cfg
  fdir : FdirSystem cfg
  rxRingDrops : UInt32

variable {cfg : Config}

/-! ### Transmission -/

/-- Each packet of a burst is stored, as its header delimits it; the fuel bounds
their number. -/
def transmitTaps (storeTime : UInt32) : Nat → List UInt8 → Pktstore cfg → Pktstore cfg
  | 0, _, store => store
  | fuel + 1, burst, store =>
      if burst.length < ccsdsPrimaryHeaderSize then store
      else
        let pktSize := ccsdsPacketTotalSize (be16At burst 4)
        if burst.length < pktSize then store
        else
          transmitTaps storeTime fuel (burst.drop pktSize)
            (pktstoreStore store (burst.take pktSize) storeTime).2

/-- The taps of `transmit_tm`; a packet has more than a header, so there are
fewer than octets. -/
def transmitTm (ctx : RouterCtx cfg) (storeTime : UInt32) (burst : List UInt8) : RouterCtx cfg :=
  { ctx with store := ctx.store.map (transmitTaps storeTime burst.length burst) }

/-! ### Dispatch -/

/-- The state after a step, and the octets transmitted in it. -/
structure LoopReply (cfg : Config) where
  state : LoopState cfg
  sent : List UInt8

/-- Dispatch a telecommand and transmit the burst, if there is one. -/
def loopDispatch (state : LoopState cfg) (nowSeconds : UInt32) (tc : List UInt8) : LoopReply cfg :=
  let reply := tcRouterDispatch state.ctx nowSeconds tc tcRouterMaxTm
  let fdir := reply.sinkReports.foldl (fun system report => (fdirSinkReport system report).system)
    state.fdir
  if reply.status = .ok ∧ reply.out.length > 0 then
    { state := { state with ctx := transmitTm reply.ctx nowSeconds reply.out, fdir := fdir }
      sent := reply.out }
  else { state := { state with ctx := reply.ctx, fdir := fdir }, sent := [] }

/-! ### The release tick -/

/-- What the release tick does with an activity's telecommand. -/
def releaseDispatch (state : LoopState cfg) (nowSeconds : UInt32) (released : List UInt8) :
    LoopReply cfg :=
  loopDispatch state nowSeconds released

def releaseTick (state : LoopState cfg) (nowSeconds : UInt32) : LoopReply cfg :=
  match state.ctx.schedule with
  | none => { state := state, sent := [] }
  | some sched =>
      let (result, after) := schedulePopDue sched nowSeconds cfg.scheduleTcMax
      let popped := { state with ctx := { state.ctx with schedule := some after } }
      match result with
      | .ok (some released) => releaseDispatch popped nowSeconds released
      | _ => { state := popped, sent := [] }

/-- The activity that is due is taken from the schedule before it is dispatched. -/
theorem releaseTick_due {state : LoopState cfg} {sched after : Schedule} {nowSeconds : UInt32}
    {tc : List UInt8} (wired : state.ctx.schedule = some sched)
    (due : schedulePopDue sched nowSeconds cfg.scheduleTcMax = (.ok (some tc), after)) :
    releaseTick state nowSeconds =
      releaseDispatch { state with ctx := { state.ctx with schedule := some after } }
        nowSeconds tc := by
  rw [releaseTick, wired]
  simp only [due]

/-! ### The framer -/

/-- The octets received, and the size of the telecommand once its header is in. -/
structure TcFramer where
  tc : List UInt8
  want : Nat
deriving DecidableEq, Repr

def framerIdle : TcFramer := { tc := [], want := 0 }

/-- One octet, and the telecommand it completes. A size that cannot be buffered
means that the framer is out of step. -/
def framerByte (framer : TcFramer) (byte : UInt8) : TcFramer × Option (List UInt8) :=
  let tc := framer.tc ++ [byte]
  let want := if tc.length = ccsdsPrimaryHeaderSize then ccsdsPacketTotalSize (be16At tc 4)
    else framer.want
  if tc.length = ccsdsPrimaryHeaderSize ∧ want > tcBufSize then (framerIdle, none)
  else if want ≠ 0 ∧ tc.length = want then (framerIdle, some tc)
  else ({ tc := tc, want := want }, none)

/-- What the framer does with a complete telecommand. -/
def framerDispatch (state : LoopState cfg) (nowSeconds : UInt32) (tc : List UInt8) :
    LoopReply cfg :=
  loopDispatch { state with ctx := { state.ctx with rxRingOverflowDrops := state.rxRingDrops } }
    nowSeconds tc

/-- The octets of the receive ring, one after the other, at one time. -/
def framerFeed (nowSeconds : UInt32) :
    TcFramer → LoopState cfg → List UInt8 → TcFramer × LoopReply cfg
  | framer, state, [] => (framer, { state := state, sent := [] })
  | framer, state, byte :: rest =>
      match framerByte framer byte with
      | (framer, none) => framerFeed nowSeconds framer state rest
      | (framer, some tc) =>
          let reply := framerDispatch state nowSeconds tc
          let (framer, later) := framerFeed nowSeconds framer reply.state rest
          (framer, { later with sent := reply.sent ++ later.sent })

/-! ### What the framer accepts -/

/-- A telecommand as its header delimits it, that the receive buffer holds. -/
structure FramerAccepts (tc : List UInt8) : Prop where
  delimited : tc.length = ccsdsPacketTotalSize (be16At tc 4)
  fits : tc.length ≤ tcBufSize

/-- The framer after some octets of a telecommand. -/
def framerAfter (tc received : List UInt8) : TcFramer :=
  { tc := received, want := if received.length < ccsdsPrimaryHeaderSize then 0 else tc.length }

theorem framerAfter_want (tc received : List UInt8) :
    (framerAfter tc received).want =
      if received.length < ccsdsPrimaryHeaderSize then 0 else tc.length := rfl

/-- Octets short of the telecommand only move the framer on; the last completes it. -/
theorem framerByte_after {tc received rest : List UInt8} {byte : UInt8}
    (accepts : FramerAccepts tc) (stream : tc = received ++ byte :: rest) :
    framerByte (framerAfter tc received) byte =
      if rest = [] then (framerIdle, some tc) else (framerAfter tc (received ++ [byte]), none) := by
  have six : ccsdsPrimaryHeaderSize = 6 := rfl
  have size := congrArg List.length stream
  rw [List.length_append, List.length_cons] at size
  have least : 7 ≤ tc.length := by
    rw [accepts.delimited, ccsdsPacketTotalSize]
    omega
  have front : tc = (received ++ [byte]) ++ rest := by rw [stream, List.append_assoc]; rfl
  have length : (received ++ [byte]).length = received.length + 1 := List.length_append
  have want : (if (received ++ [byte]).length = ccsdsPrimaryHeaderSize then
        ccsdsPacketTotalSize (be16At (received ++ [byte]) 4)
      else (framerAfter tc received).want) =
      (framerAfter tc (received ++ [byte])).want := by
    rw [framerAfter_want, framerAfter_want, length]
    by_cases header : received.length + 1 = ccsdsPrimaryHeaderSize
    · have read : be16At (received ++ [byte]) 4 = be16At tc 4 := by
        rw [front, be16At_append_left rest (by omega)]
      rw [if_pos header, read, ← accepts.delimited, if_neg (by omega)]
    · by_cases early : received.length < ccsdsPrimaryHeaderSize
      · rw [if_neg header, if_pos early, if_pos (by omega)]
      · rw [if_neg header, if_neg early, if_neg (by omega)]
  have wantLe : (framerAfter tc (received ++ [byte])).want ≤ tcBufSize := by
    have fits := accepts.fits
    rw [framerAfter_want]
    split <;> omega
  simp only [framerByte]
  rw [show (framerAfter tc received).tc = received from rfl, want,
    if_neg fun large => Nat.not_lt.mpr wantLe large.2]
  by_cases last : rest = []
  · have whole : received ++ [byte] = tc := by rw [front, last, List.append_nil]
    have complete : (framerAfter tc tc).want = tc.length := by
      rw [framerAfter_want]
      exact if_neg (by omega)
    rw [if_pos last, whole, complete, if_pos ⟨by omega, rfl⟩]
  · have more : 0 < rest.length := List.length_pos_iff.mpr last
    have incomplete : ¬ ((framerAfter tc (received ++ [byte])).want ≠ 0 ∧
        (received ++ [byte]).length = (framerAfter tc (received ++ [byte])).want) := by
      rintro ⟨nonzero, equal⟩
      have wanted := framerAfter_want tc (received ++ [byte])
      split at wanted
      · exact nonzero wanted
      · omega
    rw [if_neg last, if_neg incomplete]
    rfl

theorem framerFeed_rest {tc : List UInt8} (accepts : FramerAccepts tc) (state : LoopState cfg)
    (nowSeconds : UInt32) (received rest : List UInt8) (stream : tc = received ++ rest)
    (more : rest ≠ []) :
    framerFeed nowSeconds (framerAfter tc received) state rest =
      (framerIdle, framerDispatch state nowSeconds tc) := by
  induction rest generalizing received with
  | nil => exact absurd rfl more
  | cons byte rest inductionHypothesis =>
      rw [framerFeed, framerByte_after accepts stream]
      by_cases last : rest = []
      · subst last
        simp only [if_true, framerFeed, List.append_nil]
      · simp only [if_neg last]
        exact inductionHypothesis (received ++ [byte])
          (by rw [stream, List.append_assoc]; rfl) last

/-- An idle framer dispatches such a telecommand once, and is idle again. -/
theorem framerFeed_tc {tc : List UInt8} (accepts : FramerAccepts tc) (state : LoopState cfg)
    (nowSeconds : UInt32) :
    framerFeed nowSeconds framerIdle state tc =
      (framerIdle, framerDispatch state nowSeconds tc) := by
  have nonempty : tc ≠ [] := by
    rintro rfl
    have delimited := accepts.delimited
    simp [ccsdsPacketTotalSize] at delimited
  exact framerFeed_rest accepts state nowSeconds [] tc rfl nonempty

end FswCore
