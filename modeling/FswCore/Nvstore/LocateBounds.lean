import FswCore.Library.CheckedLoop
import FswCore.Nvstore.Records

/-!
Contract: the record walk of `nvstore.c` in its own 16-bit and 32-bit arithmetic.

Owns:
- `nvstoreLocateChecked`, where every read of the payload is checked and offsets wrap
  as they do in the source;
- whatever the payload, nothing is read behind its end, the walk ends, a record it
  reports is wholly inside, and its result is that of `nvstoreLocate`.

Does not own: which payloads are record streams.
-/

namespace FswCore

open Library Library.BigEndian

/-! ### The walk -/

/-- One round at `off`; the payload ends at `payload_len`. -/
def nvstoreLocateRound (payload : List UInt8) (recordType : UInt8) (off : UInt16) :
    Except AccessFault (UInt16 ⊕ NvLocated) :=
  let payloadLen := UInt16.ofNat payload.length
  if ¬off.toUInt32 + UInt32.ofNat nvstoreRecordOverhead ≤ payloadLen.toUInt32 then
    pure (.inr .missing)
  else do
    let type ← readAt payload off.toNat
    let len ← read16 payload (off.toUInt32 + 1).toNat
    let total := UInt32.ofNat nvstoreRecordOverhead + len.toUInt32
    if off.toUInt32 + total > payloadLen.toUInt32 then pure (.inr .corrupt)
    else if type = recordType then pure (.inr (.found off.toNat total.toUInt16.toNat))
    else pure (.inl (off.toUInt32 + total).toUInt16)

/-- `nvstore_locate`, for a number of rounds of its loop. -/
def nvstoreLocateChecked (rounds : Nat) (payload : List UInt8) (recordType : UInt8) :
    Except AccessFault (Option NvLocated) :=
  loopChecked (nvstoreLocateRound payload recordType) rounds 0

/-- The octets of a record of this type, all in the payload. -/
structure RecordInside (payload : List UInt8) (recordType : UInt8) (off total : Nat) : Prop where
  inside : off + total ≤ payload.length
  type : payload.getD off 0 = recordType
  total : total = nvstoreRecordOverhead + (be16At payload (off + 1)).toNat

/-- The store's payload. -/
structure Nvstore.Keeps (store : Nvstore) (payload : List UInt8) : Prop where
  valid : nvPayload store = payload
  length : store.payloadLen = payload.length

/-! ### No offset wraps -/

section Offsets

variable {payload : List UInt8} (off len : UInt16)

theorem offset_header (small : payload.length < 65536) :
    off.toUInt32 + UInt32.ofNat nvstoreRecordOverhead ≤ (UInt16.ofNat payload.length).toUInt32 ↔
      off.toNat + 3 ≤ payload.length := by
  have below := off.toNat_lt
  have overhead : (UInt32.ofNat nvstoreRecordOverhead).toNat = 3 := rfl
  rw [UInt32.le_iff_toNat_le, UInt32.toNat_add, UInt16.toNat_toUInt32, UInt16.toNat_toUInt32,
    UInt16.toNat_ofNat_of_lt' small, overhead, Nat.mod_eq_of_lt (by omega)]

theorem offset_next : (off.toUInt32 + 1).toNat = off.toNat + 1 := by
  have below := off.toNat_lt
  rw [UInt32.toNat_add, UInt16.toNat_toUInt32, UInt32.toNat_one, Nat.mod_eq_of_lt (by omega)]

theorem record_total :
    (UInt32.ofNat nvstoreRecordOverhead + len.toUInt32).toNat = 3 + len.toNat := by
  have below := len.toNat_lt
  have overhead : (UInt32.ofNat nvstoreRecordOverhead).toNat = 3 := rfl
  rw [UInt32.toNat_add, UInt16.toNat_toUInt32, overhead, Nat.mod_eq_of_lt (by omega)]

theorem offset_behind :
    (off.toUInt32 + (UInt32.ofNat nvstoreRecordOverhead + len.toUInt32)).toNat =
      off.toNat + (3 + len.toNat) := by
  have below := off.toNat_lt
  have lenBelow := len.toNat_lt
  rw [UInt32.toNat_add, UInt16.toNat_toUInt32, record_total len, Nat.mod_eq_of_lt (by omega)]

theorem offset_cut (small : payload.length < 65536) :
    off.toUInt32 + (UInt32.ofNat nvstoreRecordOverhead + len.toUInt32) >
        (UInt16.ofNat payload.length).toUInt32 ↔
      off.toNat + (3 + len.toNat) > payload.length := by
  rw [gt_iff_lt, UInt32.lt_iff_toNat_lt, offset_behind off len, UInt16.toNat_toUInt32,
    UInt16.toNat_ofNat_of_lt' small]

/-- Back in 16 bits. -/
theorem toUInt16_toNat {word : UInt32} (small : word.toNat < 65536) :
    word.toUInt16.toNat = word.toNat := by
  rw [UInt32.toNat_toUInt16]
  exact Nat.mod_eq_of_lt small

end Offsets

/-! ### Rounds -/

/-- The walk of the list model from an offset on, whatever its fuel, and a record it
reports. -/
structure LocatedFrom (payload : List UInt8) (recordType : UInt8) (off : Nat)
    (located : NvLocated) : Prop where
  refines : ∀ store fuel, Nvstore.Keeps store payload → payload.length ≤ off + fuel →
    nvstoreLocateLoop store recordType fuel off = located
  reported : ∀ start total, located = .found start total →
    RecordInside payload recordType start total

def nvstoreLocateSpec (payload : List UInt8) (recordType : UInt8) :
    LoopSpec UInt16 NvLocated where
  invariant := fun _ => True
  variant := fun off => payload.length - off.toNat
  right := fun off located => LocatedFrom payload recordType off.toNat located

theorem Nvstore.Keeps.type {store : Nvstore} {payload : List UInt8} (keeps : store.Keeps payload)
    {off : Nat} (inside : off < payload.length) :
    store.payload.getD off 0 = payload.getD off 0 := by
  rw [← keeps.length] at inside
  rw [← keeps.valid, getD_nvPayload inside]

theorem Nvstore.Keeps.word {store : Nvstore} {payload : List UInt8} (keeps : store.Keeps payload)
    {off : Nat} (inside : off + 2 ≤ payload.length) :
    be16At store.payload off = be16At payload off := by
  rw [← keeps.length] at inside
  rw [← keeps.valid, be16At_nvPayload inside]

/-- What the list model does with a record's header at an offset. -/
theorem nvstoreLocateLoop_header {store : Nvstore} {payload : List UInt8}
    (keeps : store.Keeps payload) (recordType : UInt8) {fuel off : Nat}
    (header : off + 3 ≤ payload.length) (enough : payload.length ≤ off + fuel) :
    nvstoreLocateLoop store recordType fuel off =
      if off + (3 + (be16At payload (off + 1)).toNat) > payload.length then .corrupt
      else if payload.getD off 0 = recordType then
        .found off (3 + (be16At payload (off + 1)).toNat)
      else nvstoreLocateLoop store recordType (fuel - 1)
        (off + (3 + (be16At payload (off + 1)).toNat)) := by
  have inside : off + nvstoreRecordOverhead ≤ store.payloadLen := by
    rw [keeps.length]
    exact header
  cases fuel with
  | zero => omega
  | succ fuel =>
      rw [nvstoreLocateLoop, if_pos inside]
      simp only [keeps.type (show off < payload.length by omega),
        keeps.word (show off + 1 + 2 ≤ payload.length by omega), keeps.length]
      rfl

theorem nvstoreLocateRound_right {payload : List UInt8} (small : payload.length < 65536)
    (recordType : UInt8) (off : UInt16) :
    RoundRight (nvstoreLocateSpec payload recordType) off
      (nvstoreLocateRound payload recordType off) := by
  unfold nvstoreLocateRound
  simp only [offset_header off small]
  apply roundRight_guard
  · intro short
    constructor
    · intro store fuel keeps _
      have behind : ¬off.toNat + nvstoreRecordOverhead ≤ store.payloadLen := by
        rw [keeps.length]
        exact short
      cases fuel with
      | zero => rfl
      | succ fuel => rw [nvstoreLocateLoop, if_neg behind]
    · intro start total impossible
      contradiction
  intro headed
  have header := not_not.mp headed
  rw [offset_next, readAt_ok (by omega) 0, checked_bind, read16_ok (by omega), checked_bind]
  simp only [offset_cut off _ small]
  have walk {store : Nvstore} (fuel : Nat) (keeps : store.Keeps payload)
      (enough : payload.length ≤ off.toNat + fuel) :=
    nvstoreLocateLoop_header keeps recordType header enough
  have size := record_total (be16At payload (off.toNat + 1))
  have behind := offset_behind off (be16At payload (off.toNat + 1))
  generalize isLen : be16At payload (off.toNat + 1) = len at walk size behind ⊢
  apply roundRight_guard
  · intro cut
    constructor
    · intro store fuel keeps enough
      rw [walk fuel keeps enough, if_pos cut]
    · intro start total impossible
      contradiction
  intro whole
  apply roundRight_guard
  · intro isType
    rw [toUInt16_toNat (by omega), size]
    constructor
    · intro store fuel keeps enough
      rw [walk fuel keeps enough, if_neg whole, if_pos isType]
    · intro start total found
      obtain ⟨rfl, rfl⟩ := NvLocated.found.inj found
      constructor
      · exact Nat.le_of_not_lt whole
      · exact isType
      · rw [isLen]
        rfl
  intro other
  have next : (off.toUInt32 + (UInt32.ofNat nvstoreRecordOverhead + len.toUInt32)).toUInt16.toNat =
      off.toNat + (3 + len.toNat) := by
    rw [toUInt16_toNat (by omega), behind]
  apply RoundRight.continues
  · trivial
  · simp only [nvstoreLocateSpec, next]
    omega
  · intro located later
    simp only [nvstoreLocateSpec, next] at later ⊢
    constructor
    · intro store fuel keeps enough
      rw [walk fuel keeps enough, if_neg whole, if_neg other]
      exact later.refines store (fuel - 1) keeps (by omega)
    · exact later.reported

/-- For any payload `payload_len` can give the length of. -/
theorem nvstoreLocateChecked_right {payload : List UInt8} (small : payload.length < 65536)
    (recordType : UInt8) {rounds : Nat} (enough : payload.length < rounds) :
    EndsRight (nvstoreLocateChecked rounds payload recordType) fun located =>
      (∀ off total, located = .found off total → RecordInside payload recordType off total) ∧
        ∀ store, Nvstore.Keeps store payload → located = nvstoreLocate store recordType := by
  have start : (nvstoreLocateSpec payload recordType).invariant 0 := trivial
  obtain ⟨located, run, isRight⟩ := loopChecked_ends
    (fun off _ => nvstoreLocateRound_right small recordType off) start enough
  refine ⟨located, run, isRight.reported, ?_⟩
  intro store keeps
  refine (isRight.refines store store.payloadLen keeps ?_).symm
  rw [keeps.length]
  exact Nat.le_add_left _ _

end FswCore
