import FswCore.App.Frames
import FswCore.App.Mission
import FswCore.App.TickRun
import FswCore.Library.BoundedQueue

/-!
Contract: the receive ring between the UART interrupt and the main loop.

Owns:
- `uartIsr` and its drop counter, and the ring it shares with the loop;
- `LinkEvent`, interrupts and ticks of the loop in any order;
- the ring is a bounded queue that drops the newest octet, so that an octet that
  arrives is taken once and in order, still queued, or counted as dropped.

The ring itself is a parameter: one octet goes in and one comes out, as its
documentation has it. Both sides access it an octet at a time.
-/

namespace FswCore

open Library

variable {cfg : Config} {σ : Type}

/-! ### The ring -/

/-- `RX_RING_SIZE`. -/
def rxRingSize : Nat := 128

/-- `ring_buf_put` and `ring_buf_get` of one octet; `put` returns how many it wrote. -/
structure RingBuf (σ : Type) where
  put : σ → UInt8 → Nat × σ
  get : σ → Option UInt8 × σ

/-- What is documented: first in, first out, and nothing is written to a full ring. -/
structure RingBuf.Documented (ring : RingBuf σ) (octets : σ → List UInt8) : Prop where
  put_free : ∀ held byte, (octets held).length < rxRingSize →
    (ring.put held byte).1 = 1 ∧ octets (ring.put held byte).2 = octets held ++ [byte]
  put_full : ∀ held byte, rxRingSize ≤ (octets held).length →
    (ring.put held byte).1 = 0 ∧ octets (ring.put held byte).2 = octets held
  get_head : ∀ held, (ring.get held).1 = (octets held).head?
  get_tail : ∀ held, octets (ring.get held).2 = (octets held).tail

/-! ### The interrupt -/

/-- The ring, and the counter only the interrupt writes. -/
structure RxLink (σ : Type) where
  ring : σ
  rxRingOverflowDrops : UInt32

/-- What the driver has for a call of the interrupt: whether there is an interrupt to
handle, and what each read of its FIFO gives for as long as it is ready. -/
structure UartIsr where
  updated : Bool
  reads : List (Option UInt8)
deriving DecidableEq, Repr

def uartIsrByte (ring : RingBuf σ) (link : RxLink σ) (byte : UInt8) : RxLink σ :=
  let (written, after) := ring.put link.ring byte
  if written ≠ 1 then { ring := after, rxRingOverflowDrops := link.rxRingOverflowDrops + 1 }
  else { link with ring := after }

/-- A read that gives no octet breaks the loop. -/
def uartIsrLoop (ring : RingBuf σ) (link : RxLink σ) : List (Option UInt8) → RxLink σ
  | [] => link
  | none :: _ => link
  | some byte :: rest => uartIsrLoop ring (uartIsrByte ring link byte) rest

def uartIsr (ring : RingBuf σ) (link : RxLink σ) (call : UartIsr) : RxLink σ :=
  if call.updated = false then link else uartIsrLoop ring link call.reads

/-- The octets a call takes from the driver. -/
def UartIsr.octets (call : UartIsr) : List UInt8 :=
  if call.updated = false then [] else (call.reads.takeWhile Option.isSome).reduceOption

/-! ### Interrupts and ticks -/

/-- Between two ticks there may be an interrupt, and within a receive tick, between the
ring and the counter. -/
inductive LinkEvent where
  | isr (call : UartIsr)
  | hk (nowSeconds : UInt32)
  | dynamicHk (nowSeconds : UInt32)
  | rxOverflow (nowSeconds : UInt32)
  | fdir (nowSeconds : UInt32)
  | release (nowSeconds : UInt32)
  | retrieval
  | largedata (nowSeconds : UInt32)
  | receive (nowSeconds : UInt32) (between : List UartIsr)
deriving DecidableEq, Repr

/-- The tick of the loop, on what it reads of the link. -/
def LinkEvent.tick (ring : RingBuf σ) (link : RxLink σ) : LinkEvent → List LoopTick × RxLink σ
  | .isr call => ([], uartIsr ring link call)
  | .hk nowSeconds => ([.hk nowSeconds link.rxRingOverflowDrops], link)
  | .dynamicHk nowSeconds => ([.dynamicHk nowSeconds], link)
  | .rxOverflow nowSeconds => ([.rxOverflow nowSeconds link.rxRingOverflowDrops], link)
  | .fdir nowSeconds => ([.fdir nowSeconds], link)
  | .release nowSeconds => ([.release nowSeconds], link)
  | .retrieval => ([.retrieval], link)
  | .largedata nowSeconds => ([.largedata nowSeconds], link)
  | .receive nowSeconds between =>
      let (got, taken) := ring.get link.ring
      let link := between.foldl (uartIsr ring) { link with ring := taken }
      ([.receive nowSeconds link.rxRingOverflowDrops got], link)

structure Linked (σ : Type) (cfg : Config) where
  link : RxLink σ
  main : MainState cfg

def linkedStep (ring : RingBuf σ) (linked : Linked σ cfg) (event : LinkEvent) : Linked σ cfg :=
  let (ticks, link) := event.tick ring linked.link
  { link := link, main := tickRun linked.main ticks }

def linkedRun (ring : RingBuf σ) (linked : Linked σ cfg) (events : List LinkEvent) :
    Linked σ cfg :=
  events.foldl (linkedStep ring) linked

/-- The ticks of a run, with what they read. -/
def linkTicks (ring : RingBuf σ) (link : RxLink σ) : List LinkEvent → List LoopTick
  | [] => []
  | event :: rest =>
      (event.tick ring link).1 ++ linkTicks ring (event.tick ring link).2 rest

def linkAfter (ring : RingBuf σ) (link : RxLink σ) (events : List LinkEvent) : RxLink σ :=
  events.foldl (fun link event => (event.tick ring link).2) link

theorem linkTicks_append (ring : RingBuf σ) (link : RxLink σ) (first second : List LinkEvent) :
    linkTicks ring link (first ++ second) =
      linkTicks ring link first ++ linkTicks ring (linkAfter ring link first) second := by
  induction first generalizing link with
  | nil => rfl
  | cons event rest inductionHypothesis =>
      rw [List.cons_append, linkTicks, inductionHypothesis, linkTicks, List.append_assoc]
      rfl

/-- The loop goes through its ticks on what they read; it writes nothing back. -/
theorem linkedRun_eq (ring : RingBuf σ) (linked : Linked σ cfg) (events : List LinkEvent) :
    linkedRun ring linked events =
      { link := linkAfter ring linked.link events
        main := tickRun linked.main (linkTicks ring linked.link events) } := by
  induction events generalizing linked with
  | nil => rfl
  | cons event rest inductionHypothesis =>
      rw [linkTicks, tickRun_append]
      exact inductionHypothesis (linkedStep ring linked event)

/-! ### The ring as a queue -/

/-- The octets an event brings from the driver. -/
def LinkEvent.arrivals : LinkEvent → List UInt8
  | .isr call => call.octets
  | .receive _ between => between.flatMap UartIsr.octets
  | _ => []

def LinkEvent.calls : LinkEvent → List (BoundedQueue.Call UInt8)
  | .isr call => call.octets.map .offer
  | .receive _ between => .take :: (between.flatMap UartIsr.octets).map .offer
  | _ => []

/-- The link as the queue it implements. -/
structure LinkQueues (octets : σ → List UInt8) (link : RxLink σ) (queue : BoundedQueue UInt8) :
    Prop where
  octets : octets link.ring = queue.items
  drops : link.rxRingOverflowDrops = UInt32.ofNat queue.dropped

section Queue

variable {ring : RingBuf σ} {octets : σ → List UInt8} {link : RxLink σ}
  {queue : BoundedQueue UInt8}

theorem uartIsrByte_queues (documented : ring.Documented octets)
    (queues : LinkQueues octets link queue) (byte : UInt8) :
    LinkQueues octets (uartIsrByte ring link byte) (queue.offer rxRingSize byte) := by
  have free := documented.put_free link.ring byte
  have full := documented.put_full link.ring byte
  rw [uartIsrByte, BoundedQueue.offer]
  rw [queues.octets] at free full
  generalize ring.put link.ring byte = put at free full
  obtain ⟨count, after⟩ := put
  by_cases room : queue.Free rxRingSize
  · obtain ⟨written, held⟩ := free room
    simp only at written held
    rw [if_pos room, written]
    exact ⟨held, queues.drops⟩
  · obtain ⟨written, held⟩ := full (Nat.le_of_not_lt room)
    simp only at written held
    rw [if_neg room, written]
    refine ⟨held, ?_⟩
    change link.rxRingOverflowDrops + 1 = _
    rw [queues.drops, UInt32.ofNat_add]
    rfl

theorem uartIsr_queues (documented : ring.Documented octets)
    (queues : LinkQueues octets link queue) (call : UartIsr) :
    LinkQueues octets (uartIsr ring link call)
      (queue.run rxRingSize (call.octets.map .offer)) := by
  obtain ⟨updated, reads⟩ := call
  cases updated with
  | false => exact queues
  | true =>
      change LinkQueues octets (uartIsrLoop ring link reads)
        (queue.run rxRingSize ((reads.takeWhile Option.isSome).reduceOption.map .offer))
      induction reads generalizing link queue with
      | nil => exact queues
      | cons read rest inductionHypothesis =>
          cases read with
          | none => exact queues
          | some byte => exact inductionHypothesis (uartIsrByte_queues documented queues byte)

theorem uartIsrs_queues (documented : ring.Documented octets)
    (queues : LinkQueues octets link queue) (calls : List UartIsr) :
    LinkQueues octets (calls.foldl (uartIsr ring) link)
      (queue.run rxRingSize ((calls.flatMap UartIsr.octets).map .offer)) := by
  induction calls generalizing link queue with
  | nil => exact queues
  | cons call rest inductionHypothesis =>
      rw [List.flatMap_cons, List.map_append, BoundedQueue.run_append]
      exact inductionHypothesis (uartIsr_queues documented queues call)

/-- An event makes its calls, and its tick has what they take. -/
theorem LinkEvent.tick_queues (documented : ring.Documented octets)
    (queues : LinkQueues octets link queue) (event : LinkEvent) :
    LinkQueues octets (event.tick ring link).2 (queue.run rxRingSize event.calls) ∧
      (event.tick ring link).1.flatMap LoopTick.octets =
        queue.runTaken rxRingSize event.calls := by
  cases event with
  | isr call =>
      refine ⟨uartIsr_queues documented queues call, ?_⟩
      rw [LinkEvent.calls, BoundedQueue.runTaken_offers]
      rfl
  | receive nowSeconds between =>
      have head := documented.get_head link.ring
      have taken : LinkQueues octets { link with ring := (ring.get link.ring).2 } queue.take.2 :=
        ⟨(documented.get_tail link.ring).trans (congrArg List.tail queues.octets), queues.drops⟩
      refine ⟨uartIsrs_queues documented taken between, ?_⟩
      rw [LinkEvent.calls, BoundedQueue.runTaken, BoundedQueue.runTaken_offers, List.append_nil]
      change (ring.get link.ring).1.toList ++ [] = _
      rw [head, queues.octets, List.append_nil]
      rfl
  | hk | dynamicHk | rxOverflow | fdir | release | retrieval | largedata => exact ⟨queues, rfl⟩

theorem LinkEvent.offered_calls (event : LinkEvent) :
    BoundedQueue.offered event.calls = event.arrivals := by
  cases event with
  | isr call => exact BoundedQueue.offered_offers call.octets
  | receive nowSeconds between =>
      exact BoundedQueue.offered_offers (between.flatMap UartIsr.octets)
  | hk | dynamicHk | rxOverflow | fdir | release | retrieval | largedata => rfl

/-- So does a run. -/
theorem linkRun_queues (documented : ring.Documented octets)
    (queues : LinkQueues octets link queue) (events : List LinkEvent) :
    LinkQueues octets (linkAfter ring link events)
        (queue.run rxRingSize (events.flatMap LinkEvent.calls)) ∧
      (linkTicks ring link events).flatMap LoopTick.octets =
        queue.runTaken rxRingSize (events.flatMap LinkEvent.calls) := by
  induction events generalizing link queue with
  | nil => exact ⟨queues, rfl⟩
  | cons event rest inductionHypothesis =>
      obtain ⟨stepped, taken⟩ := event.tick_queues documented queues
      obtain ⟨later, laterTaken⟩ := inductionHypothesis stepped
      rw [List.flatMap_cons, BoundedQueue.run_append, BoundedQueue.runTaken_append, linkTicks,
        List.flatMap_append, taken, laterTaken]
      exact ⟨later, rfl⟩

end Queue

/-! ### Octets -/

/-- The queue behind a run that began with an empty one. -/
def linkQueue (events : List LinkEvent) : BoundedQueue UInt8 :=
  BoundedQueue.empty.run rxRingSize (events.flatMap LinkEvent.calls)

/-- What is read off a link that began empty. -/
structure LinkAccounts (octets : σ → List UInt8) (link : RxLink σ) (arrived taken : List UInt8)
    (dropped : Nat) : Prop where
  inOrder : (taken ++ octets link.ring).Sublist arrived
  counted : taken.length + (octets link.ring).length + dropped = arrived.length
  drops : link.rxRingOverflowDrops = UInt32.ofNat dropped
  bounded : (octets link.ring).length ≤ rxRingSize

/-- Without a drop, what arrived was taken or is in the ring. -/
theorem LinkAccounts.lossless {octets : σ → List UInt8} {link : RxLink σ}
    {arrived taken : List UInt8} {dropped : Nat}
    (accounts : LinkAccounts octets link arrived taken dropped) (none : dropped = 0) :
    arrived = taken ++ octets link.ring := by
  refine (accounts.inOrder.eq_of_length ?_).symm
  have counted := accounts.counted
  rw [none] at counted
  rw [List.length_append]
  exact counted

theorem linkRun_accounts {ring : RingBuf σ} {octets : σ → List UInt8}
    (documented : ring.Documented octets) {link : RxLink σ} (empty : octets link.ring = [])
    (noDrops : link.rxRingOverflowDrops = 0) (events : List LinkEvent) :
    LinkQueues octets (linkAfter ring link events) (linkQueue events) ∧
      LinkAccounts octets (linkAfter ring link events) (events.flatMap LinkEvent.arrivals)
        ((linkTicks ring link events).flatMap LoopTick.octets) (linkQueue events).dropped := by
  have started : LinkQueues octets link BoundedQueue.empty := ⟨empty, noDrops⟩
  obtain ⟨queues, taken⟩ := linkRun_queues documented started events
  have offered : BoundedQueue.offered (events.flatMap LinkEvent.calls) =
      events.flatMap LinkEvent.arrivals := by
    rw [BoundedQueue.offered, List.flatMap_assoc]
    exact congrArg (events.flatMap ·) (funext LinkEvent.offered_calls)
  have conserved := BoundedQueue.run_conserved rxRingSize BoundedQueue.empty
    (events.flatMap LinkEvent.calls)
  have counted := BoundedQueue.run_counted rxRingSize BoundedQueue.empty
    (events.flatMap LinkEvent.calls)
  have accepted := BoundedQueue.runAccepted_sublist rxRingSize BoundedQueue.empty
    (events.flatMap LinkEvent.calls)
  have none : (BoundedQueue.empty : BoundedQueue UInt8).items.length ≤ rxRingSize :=
    Nat.zero_le _
  have bounded := BoundedQueue.run_bounded none (events.flatMap LinkEvent.calls)
  rw [offered] at counted accepted
  rw [← taken, ← queues.octets] at conserved
  change [] ++ _ = _ at conserved
  rw [List.nil_append] at conserved
  refine ⟨queues, ?_, ?_, queues.drops, ?_⟩
  · rw [← conserved]
    exact accepted
  · rw [conserved, List.length_append] at counted
    change (linkQueue events).dropped + _ = 0 + _ at counted
    omega
  · rw [queues.octets]
    exact bounded

/-- No octet is lost, doubled or reordered in silence, whatever the order of interrupts
and ticks: those the loop has taken, and behind them those in the ring, are, in order,
among those that arrived, and the counter counts the others. The framer works on exactly
those taken; without a drop they are all that arrived but what is still in the ring. -/
theorem linkedRun_conserves {ring : RingBuf σ} {octets : σ → List UInt8}
    (documented : ring.Documented octets) {link : RxLink σ} (empty : octets link.ring = [])
    (noDrops : link.rxRingOverflowDrops = 0) {main : MainState cfg}
    (idle : main.framer = framerIdle) (events : List LinkEvent) :
    let reached := linkedRun ring ⟨link, main⟩ events
    let ticks := linkTicks ring link events
    let arrived := events.flatMap LinkEvent.arrivals
    reached.main = tickRun main ticks ∧
      tickFrames main ticks = framesOf (ticks.flatMap LoopTick.octets) ∧
      ∃ dropped, LinkAccounts octets reached.link arrived (ticks.flatMap LoopTick.octets) dropped ∧
        (dropped = 0 → arrived = ticks.flatMap LoopTick.octets ++ octets reached.link.ring) := by
  intro reached ticks arrived
  have run : reached = _ := linkedRun_eq ring ⟨link, main⟩ events
  obtain ⟨_, accounts⟩ := linkRun_accounts documented empty noDrops events
  rw [run]
  refine ⟨rfl, ?_, _, accounts, accounts.lossless⟩
  rw [tickFrames_eq, idle, framesOf]

/-- A list as the ring. -/
def listRing : RingBuf (List UInt8) where
  put held byte := if held.length < rxRingSize then (1, held ++ [byte]) else (0, held)
  get held := (held.head?, held.tail)

theorem listRing_documented : listRing.Documented id where
  put_free held byte free := by
    simp only [listRing, id_eq] at free ⊢
    rw [if_pos free]
    exact ⟨rfl, rfl⟩
  put_full held byte full := by
    simp only [listRing, id_eq] at full ⊢
    rw [if_neg (Nat.not_lt.mpr full)]
    exact ⟨rfl, rfl⟩
  get_head _ := rfl
  get_tail _ := rfl

/-- An interrupt brings more octets than the ring holds, between two ticks. -/
def floodedUplink : List LinkEvent :=
  [.receive 9 [], .isr { updated := true, reads := List.replicate 130 (some 0) }, .receive 9 []]

theorem linkedRun_conserves_flooded :
    let link : RxLink (List UInt8) := { ring := [], rxRingOverflowDrops := 0 }
    let main : MainState defaultConfig := (powerUp defaultConfig watchfulBuild
      (zeroedPowerUp defaultConfig 0)
      (erasedFlash { sectorSize := 2048, sectorCount := 2, writeBlock := 32 })).main
    let reached := linkedRun listRing ⟨link, main⟩ floodedUplink
    ∃ dropped, LinkAccounts id reached.link (floodedUplink.flatMap LinkEvent.arrivals)
      ((linkTicks listRing link floodedUplink).flatMap LoopTick.octets) dropped := by
  intro link main reached
  have idle : main.framer = framerIdle := by decide +kernel
  obtain ⟨_, _, dropped, accounts, _⟩ := linkedRun_conserves listRing_documented
    (show id link.ring = [] from rfl) rfl idle floodedUplink
  exact ⟨dropped, accounts⟩

end FswCore
