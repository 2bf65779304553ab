import FswCore.App.Acknowledgement
import FswCore.App.Provenance
import FswCore.App.ReceiveRing
import Mathlib.Data.List.Flatten

/-!
Contract: the uplink from end to end: interrupts, receive ring, framer, router, downlink.

Owns:
- a stream of whole telecommands is framed into these, from any of its prefixes on;
- whatever the order of interrupts and ticks, the telecommands uplinked are dispatched
  once each and in order as far as they were taken, unless octets were dropped;
- and each of them is acknowledged in the live telemetry.

Does not own: the verdict on a telecommand.
-/

namespace FswCore

open Library

variable {σ : Type} {cfg : Config} {build : AppBuild}

/-! ### Framing -/

/-- The octets left of a telecommand complete it, and leave the framer idle. -/
theorem framer_completes {tc received rest : List UInt8} (accepts : FramerAccepts tc)
    (stream : tc = received ++ rest) (left : rest ≠ []) :
    (outputs framerByte (framerAfter tc received) rest).1 = framerIdle ∧
      (outputs framerByte (framerAfter tc received) rest).2.reduceOption = [tc] := by
  induction rest generalizing received with
  | nil => exact absurd rfl left
  | cons byte rest inductionHypothesis =>
      have step := framerByte_after accepts stream
      have run : outputs framerByte (framerAfter tc received) (byte :: rest) =
          ((outputs framerByte (framerByte (framerAfter tc received) byte).1 rest).1,
            (framerByte (framerAfter tc received) byte).2 ::
              (outputs framerByte (framerByte (framerAfter tc received) byte).1 rest).2) := rfl
      rw [run, step]
      by_cases last : rest = []
      · subst last
        exact ⟨rfl, rfl⟩
      · rw [if_neg last]
        obtain ⟨idle, completes⟩ := inductionHypothesis
          (show tc = (received ++ [byte]) ++ rest by rw [stream, List.append_assoc]; rfl) last
        exact ⟨idle, completes⟩

theorem FramerAccepts.ne_nil {tc : List UInt8} (accepts : FramerAccepts tc) : tc ≠ [] := by
  rintro rfl
  have length := accepts.delimited
  simp only [List.length_nil, ccsdsPacketTotalSize] at length
  omega

/-- Whole telecommands are framed one after the other. -/
theorem framesOf_flatten {tcs : List (List UInt8)} (each : ∀ tc ∈ tcs, FramerAccepts tc) :
    framesOf tcs.flatten = tcs := by
  suffices (outputs framerByte framerIdle tcs.flatten).1 = framerIdle ∧
      (outputs framerByte framerIdle tcs.flatten).2.reduceOption = tcs from this.2
  induction tcs with
  | nil => exact ⟨rfl, rfl⟩
  | cons tc rest inductionHypothesis =>
      obtain ⟨accepts, others⟩ := List.forall_mem_cons.mp each
      obtain ⟨idle, completes⟩ := framer_completes accepts (List.nil_append tc).symm accepts.ne_nil
      change (outputs framerByte framerIdle tc).1 = framerIdle at idle
      change (outputs framerByte framerIdle tc).2.reduceOption = [tc] at completes
      obtain ⟨final, framed⟩ := inductionHypothesis others
      rw [List.flatten_cons, outputs_append, List.reduceOption_append, idle, completes, framed]
      exact ⟨final, rfl⟩

theorem framesOf_prefix {octets stream : List UInt8} (begins : octets <+: stream) :
    framesOf octets <+: framesOf stream := by
  obtain ⟨more, rfl⟩ := begins
  rw [framesOf_append]
  exact List.prefix_append _ _

/-! ### Dispatches -/

def LoopTick.isReceive : LoopTick → Bool
  | .receive _ _ _ => true
  | _ => false

/-- The dispatches of received telecommands, not of released ones. -/
def receivedDispatches (state : MainState cfg) : List LoopTick → List (TickDispatch cfg)
  | [] => []
  | tick :: rest =>
      (if tick.isReceive then (state.dispatches tick).toList else []) ++
        receivedDispatches (loopTick state tick).1 rest

theorem MainState.dispatches_received (state : MainState cfg) (tick : LoopTick) :
    (if tick.isReceive then (state.dispatches tick).toList else []).map TickDispatch.tc =
      (state.frame tick).toList := by
  cases tick with
  | receive nowSeconds drops received =>
      simp only [LoopTick.isReceive, if_true, MainState.dispatches, MainState.frame]
      cases framedTc state received <;> rfl
  | hk | dynamicHk | rxOverflow | fdir | release | retrieval | largedata => rfl

/-- What is received is dispatched frame by frame. -/
theorem receivedDispatches_tc (state : MainState cfg) (ticks : List LoopTick) :
    (receivedDispatches state ticks).map TickDispatch.tc = tickFrames state ticks := by
  induction ticks generalizing state with
  | nil => rfl
  | cons tick rest inductionHypothesis =>
      rw [receivedDispatches, List.map_append, state.dispatches_received, inductionHypothesis,
        tickFrames]

theorem receivedDispatches_sublist (state : MainState cfg) (ticks : List LoopTick) :
    (receivedDispatches state ticks).Sublist (tickDispatches state ticks) := by
  induction ticks generalizing state with
  | nil => exact .slnil
  | cons tick rest inductionHypothesis =>
      rw [receivedDispatches, tickDispatches]
      refine List.Sublist.append ?_ (inductionHypothesis _)
      split
      · exact List.Sublist.refl _
      · exact List.nil_sublist _

/-! ### From end to end -/

/-- From start-up, whatever the order of interrupts and ticks: if the octets that arrive are
those of whole telecommands, and none was dropped, then the telecommands received are
dispatched in order, each once, up to those still on their way; all of them, if nothing is.
What they are owed in acknowledgements is, in order, in the live telemetry. -/
theorem linkedRun_delivers {ring : RingBuf σ} {octets : σ → List UInt8}
    (documented : ring.Documented octets) {link : RxLink σ} (empty : octets link.ring = [])
    (noDrops : link.rxRingOverflowDrops = 0) (admitted : cfg.KconfigAdmitted)
    (partSize : cfg.pus13PartSize + 18 < 65536) (power : PowerUp cfg)
    (loaded : NvstoreStatus × Nvstore) (events : List LinkEvent) {tcs : List (List UInt8)}
    (each : ∀ tc ∈ tcs, FramerAccepts tc)
    (uplinked : events.flatMap LinkEvent.arrivals <+: tcs.flatten) :
    let boot := appMain cfg build power (appRestore cfg build.tables loaded)
    let reached := linkedRun ring ⟨link, boot.1⟩ events
    let ticks := linkTicks ring link events
    let arrived := events.flatMap LinkEvent.arrivals
    reached.main = tickRun boot.1 ticks ∧
      (∃ dropped, LinkAccounts octets reached.link arrived (ticks.flatMap LoopTick.octets) dropped ∧
        (dropped = 0 →
          (receivedDispatches boot.1 ticks).map TickDispatch.tc <+: tcs ∧
            (octets reached.link.ring = [] → arrived = tcs.flatten →
              (receivedDispatches boot.1 ticks).map TickDispatch.tc = tcs))) ∧
      ((receivedDispatches boot.1 ticks).flatMap TickDispatch.acknowledgements).Sublist
        ((boot.2.live ++ tickLive boot.1 ticks).filterMap acknowledgementOf) := by
  intro boot reached ticks arrived
  have run : reached = _ := linkedRun_eq ring ⟨link, boot.1⟩ events
  obtain ⟨_, accounts⟩ := linkRun_accounts documented empty noDrops events
  have idle : boot.1.framer = framerIdle := appMain_framer power _
  have params : build.tables.params.length ≤ 3 := Nat.le_refl _
  have ready : boot.1.senders.Ready := appMain_ready admitted.reportLimits partSize build power
    (Subsystems.Within.appRestore cfg params loaded)
  rw [run]
  refine ⟨rfl, ⟨_, accounts, fun none => ?_⟩, ?_⟩
  · have framed : (receivedDispatches boot.1 ticks).map TickDispatch.tc =
        framesOf (ticks.flatMap LoopTick.octets) := by
      rw [receivedDispatches_tc, tickFrames_eq, idle, framesOf]
    have lossless := accounts.lossless none
    have frames := framesOf_flatten each
    rw [framed]
    constructor
    · rw [← frames]
      rw [lossless] at uplinked
      exact framesOf_prefix ((List.prefix_append _ _).trans uplinked)
    · intro drained whole
      change octets (linkAfter ring link events).ring = [] at drained
      change arrived = _ ++ octets (linkAfter ring link events).ring at lossless
      rw [drained, List.append_nil, whole] at lossless
      rw [← lossless, frames]
  · rw [List.filterMap_append,
      tickRun_acknowledges admitted.reportLimits partSize ready ticks]
    exact ((receivedDispatches_sublist _ _).flatMap _).trans (List.sublist_append_right _ _)

/-- A connection test, and half of another. -/
def halfUplink : List LinkEvent :=
  let test : List UInt8 := [0x19, 0, 0xC0, 1, 0, 6, 0x29, 17, 1, 0, 5, 0x7B, 0xE2]
  [.isr { updated := true, reads := (test ++ test.take 6).map some }] ++
    (List.range 19).map fun _ => .receive 9 []

theorem linkedRun_delivers_half :
    let link : RxLink (List UInt8) := { ring := [], rxRingOverflowDrops := 0 }
    let boot := appMain defaultConfig watchfulBuild (zeroedPowerUp defaultConfig 0)
      (appRestore defaultConfig watchfulBuild.tables (.errNoValidImage, nvstoreZero))
    (receivedDispatches boot.1 (linkTicks listRing link halfUplink)).map TickDispatch.tc <+:
      List.replicate 2 [0x19, 0, 0xC0, 1, 0, 6, 0x29, 17, 1, 0, 5, 0x7B, 0xE2] := by
  intro link boot
  have noDrops : link.rxRingOverflowDrops = 0 := rfl
  have each : ∀ tc ∈ List.replicate 2 [0x19, 0, 0xC0, 1, 0, 6, 0x29, 17, 1, 0, 5, 0x7B, 0xE2],
      FramerAccepts tc := by
    intro tc member
    rw [List.eq_of_mem_replicate member]
    exact ⟨by decide, by decide⟩
  obtain ⟨_, ⟨dropped, accounts, delivers⟩, _⟩ := linkedRun_delivers listRing_documented
    (show id link.ring = [] from rfl) noDrops Config.default_kconfigAdmitted (by decide)
    (zeroedPowerUp defaultConfig 0) (.errNoValidImage, nvstoreZero) halfUplink each (by decide)
  have arrivals : (halfUplink.flatMap LinkEvent.arrivals).length = 19 := by decide
  have counter : (linkedRun listRing ⟨link, boot.1⟩ halfUplink).link.rxRingOverflowDrops = 0 := by
    decide +kernel
  have none : dropped = 0 := by
    have counted := accounts.counted
    have small := congrArg UInt32.toNat (accounts.drops.symm.trans counter)
    rw [UInt32.toNat_ofNat', Nat.mod_eq_of_lt (by omega)] at small
    exact small
  exact (delivers none).1

end FswCore
