import FswCore.Config
import FswCore.Library.RingView

/-!
Contract: `lib/fdir/src/event_fifo.c`, function by function, and the queue it
implements.

Owns:
- the ring of event records and its two operations;
- `eventFifoQueue`, the queued records oldest first, and what a push and a pop
  do to it.

An event's `aux` with its `aux_len` is the list of its bytes. The NULL checks
have no counterpart.
-/

namespace FswCore

open Library

/-- `MIGRIS_FDIR_EVENT_AUX_MAX`. -/
def fdirEventAuxMax : Nat := 8

structure FdirEvent where
  eventId : UInt16
  severity : UInt8
  aux : List UInt8
  tSeconds : UInt32
deriving DecidableEq, Repr

structure EventFifo (cfg : Config) where
  slots : Vector FdirEvent cfg.fdirEventFifoCapacity
  head : Fin cfg.fdirEventFifoCapacity
  count : Nat
  dropped : UInt32
deriving DecidableEq, Repr

inductive EventFifoStatus where
  | ok
  | errFull
  | errBadArg
deriving DecidableEq, Repr

variable {cfg : Config}

/-- The records themselves keep whatever the memory held. -/
def eventFifoInit (fifo : EventFifo cfg) : EventFifo cfg :=
  { fifo with head := ⟨0, cfg.fdirEventFifoCapacity_pos⟩, count := 0, dropped := 0 }

/-- A full ring keeps what it holds and counts the loss; an event with too much
auxiliary data is not counted. -/
def eventFifoPush (fifo : EventFifo cfg) (event : FdirEvent) : EventFifoStatus × EventFifo cfg :=
  if event.aux.length > fdirEventAuxMax then (.errBadArg, fifo)
  else if fifo.count ≥ cfg.fdirEventFifoCapacity then
    (.errFull, { fifo with dropped := fifo.dropped + 1 })
  else (.ok, { fifo with
    slots := fifo.slots.set (ringIndex fifo.head fifo.count) event
    count := fifo.count + 1 })

/-- `none` is the return value 0. -/
def eventFifoPop (fifo : EventFifo cfg) : Option FdirEvent × EventFifo cfg :=
  if fifo.count = 0 then (none, fifo)
  else (some fifo.slots[fifo.head],
    { fifo with head := ringIndex fifo.head 1, count := fifo.count - 1 })

/-! ### The queue -/

/-- The queued records, oldest first. -/
def eventFifoQueue (fifo : EventFifo cfg) : List FdirEvent :=
  ringView fifo.slots fifo.head fifo.count

@[simp] theorem eventFifoQueue_length (fifo : EventFifo cfg) :
    (eventFifoQueue fifo).length = fifo.count := by
  rw [eventFifoQueue, ringView_length]

theorem eventFifoInit_queue (fifo : EventFifo cfg) : eventFifoQueue (eventFifoInit fifo) = [] :=
  rfl

/-- A push appends the event exactly when it fits and a slot is free, and else
leaves the queue alone. -/
theorem eventFifoPush_spec (fifo : EventFifo cfg) (event : FdirEvent) :
    ((eventFifoPush fifo event).1 = .ok ↔
        event.aux.length ≤ fdirEventAuxMax ∧ fifo.count < cfg.fdirEventFifoCapacity) ∧
      eventFifoQueue (eventFifoPush fifo event).2 =
        eventFifoQueue fifo ++ if (eventFifoPush fifo event).1 = .ok then [event] else [] := by
  rw [eventFifoPush]
  split
  · rename_i large
    exact ⟨⟨fun impossible => by simp at impossible, fun fits => absurd fits.1 (by omega)⟩,
      by simp⟩
  rename_i fits
  split
  · rename_i full
    exact ⟨⟨fun impossible => by simp at impossible, fun free => absurd free.2 (by omega)⟩,
      by simp [eventFifoQueue]⟩
  · rename_i room
    refine ⟨⟨fun _ => ⟨by omega, by omega⟩, fun _ => rfl⟩, ?_⟩
    simp only [if_true, eventFifoQueue]
    exact ringView_set fifo.slots fifo.head (by omega) event

/-- A pop takes the oldest record, if there is one. -/
theorem eventFifoPop_spec (fifo : EventFifo cfg) :
    eventFifoQueue fifo =
      (eventFifoPop fifo).1.toList ++ eventFifoQueue (eventFifoPop fifo).2 := by
  rw [eventFifoPop]
  split
  · rfl
  · rename_i nonempty
    obtain ⟨fewer, count⟩ := Nat.exists_eq_succ_of_ne_zero nonempty
    simp only [eventFifoQueue, count, Nat.succ_eq_add_one, ringView_succ]
    rfl

end FswCore
