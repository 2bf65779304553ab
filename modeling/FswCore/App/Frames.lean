import FswCore.App.ComponentCalls
import Mathlib.Data.List.ReduceOption

/-!
Contract: the octets the loop receives, and the telecommands framed from them.

Owns:
- `framesOf`, what the framer completes out of octets, each a part of them;
- the octets a tick takes from the receive ring, and the framer behind it;
- over every run of ticks, the telecommands framed are those of the octets taken.

Does not own: what the router does with a telecommand.
-/

namespace FswCore

open Library Library.BigEndian

variable {cfg : Config}

/-! ### Octets and frames -/

/-- The telecommands the framer completes, from an idle one on. -/
def framesOf (octets : List UInt8) : List (List UInt8) :=
  (outputs framerByte framerIdle octets).2.reduceOption

theorem framesOf_append (octets more : List UInt8) :
    framesOf (octets ++ more) =
      framesOf octets ++
        (outputs framerByte (outputs framerByte framerIdle octets).1 more).2.reduceOption := by
  rw [framesOf, outputs_append, List.reduceOption_append, framesOf]

/-- What the framer holds, and what it completes, is the end of what it was fed. -/
theorem framerByte_suffix {framer : TcFramer} {octets : List UInt8} (held : framer.tc <:+ octets)
    (byte : UInt8) :
    (framerByte framer byte).1.tc <:+ octets ++ [byte] ∧
      ∀ tc, (framerByte framer byte).2 = some tc → tc <:+ octets ++ [byte] := by
  have grown : framer.tc ++ [byte] <:+ octets ++ [byte] := by
    obtain ⟨front, rfl⟩ := held
    exact ⟨front, (List.append_assoc ..).symm⟩
  unfold framerByte
  simp only
  generalize (if (framer.tc ++ [byte]).length = ccsdsPrimaryHeaderSize then
    ccsdsPacketTotalSize (be16At (framer.tc ++ [byte]) 4) else framer.want) = want
  split_ifs with tooLarge complete
  · exact ⟨List.nil_suffix, fun tc completed => by contradiction⟩
  · refine ⟨List.nil_suffix, fun tc completed => ?_⟩
    obtain rfl := Option.some.inj completed
    exact grown
  · exact ⟨grown, fun tc completed => by contradiction⟩

/-- A frame is a part of the octets. -/
theorem framesOf_parts (octets : List UInt8) :
    (outputs framerByte framerIdle octets).1.tc <:+ octets ∧
      ∀ tc ∈ framesOf octets, tc <:+: octets := by
  induction octets using List.reverseRecOn with
  | nil => exact ⟨List.suffix_refl _, fun tc none => absurd none List.not_mem_nil⟩
  | append_singleton octets byte inductionHypothesis =>
      obtain ⟨held, earlier⟩ := inductionHypothesis
      obtain ⟨now, completes⟩ := framerByte_suffix held byte
      constructor
      · rw [outputs_append]
        exact now
      · intro tc member
        rw [framesOf_append, List.mem_append] at member
        rcases member with before | new
        · exact (earlier tc before).trans (List.prefix_append _ _).isInfix
        · rw [List.reduceOption_mem_iff] at new
          exact (completes tc (List.mem_singleton.mp new).symm).isInfix

/-! ### Ticks -/

/-- The octet a tick takes from the receive ring. -/
def LoopTick.octets : LoopTick → List UInt8
  | .receive _ _ received => received.toList
  | _ => []

theorem loopTick_framer (state : MainState cfg) (tick : LoopTick) :
    (loopTick state tick).1.framer = (outputs framerByte state.framer tick.octets).1 := by
  cases tick with
  | hk nowSeconds drops =>
      simp only [loopTick, hkTick]
      split <;> rfl
  | dynamicHk nowSeconds =>
      simp only [loopTick, dynamicHkTick]
      split
      · split <;> rfl
      · rfl
  | rxOverflow nowSeconds drops =>
      simp only [loopTick, rxOverflowTick]
      split <;> rfl
  | fdir nowSeconds => rfl
  | release nowSeconds => rfl
  | retrieval =>
      simp only [loopTick, retrievalTick]
      split <;> rfl
  | largedata nowSeconds => rfl
  | receive nowSeconds drops received =>
      cases received with
      | none => rfl
      | some byte =>
          simp only [loopTick, receiveTick]
          split <;> rfl

/-- The telecommand that the framer completes in a tick. -/
def MainState.frame (state : MainState cfg) : LoopTick → Option (List UInt8)
  | .receive _ _ received => framedTc state received
  | _ => none

theorem MainState.frame_octets (state : MainState cfg) (tick : LoopTick) :
    (state.frame tick).toList =
      (outputs framerByte state.framer tick.octets).2.reduceOption := by
  cases tick with
  | receive nowSeconds drops received =>
      cases received with
      | none => rfl
      | some byte =>
          change ((framerByte state.framer byte).2).toList =
            [(framerByte state.framer byte).2].reduceOption
          cases (framerByte state.framer byte).2 <;> rfl
  | hk | dynamicHk | rxOverflow | fdir | release | retrieval | largedata => rfl

def tickFrames (state : MainState cfg) : List LoopTick → List (List UInt8)
  | [] => []
  | tick :: rest => (state.frame tick).toList ++ tickFrames (loopTick state tick).1 rest

/-- They are the frames of the octets taken, whatever the ticks in between do. -/
theorem tickFrames_eq (state : MainState cfg) (ticks : List LoopTick) :
    tickFrames state ticks =
      (outputs framerByte state.framer (ticks.flatMap LoopTick.octets)).2.reduceOption := by
  induction ticks generalizing state with
  | nil => rfl
  | cons tick rest inductionHypothesis =>
      rw [tickFrames, inductionHypothesis, loopTick_framer, List.flatMap_cons, outputs_append,
        List.reduceOption_append, MainState.frame_octets]

end FswCore
