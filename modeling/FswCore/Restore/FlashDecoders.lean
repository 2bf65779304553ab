import FswCore.Datapool.RestoreBounds
import FswCore.Hkstore.RestoreBounds
import FswCore.Nvstore.LocateBounds
import FswCore.Schedule.RestoreBounds

/-!
Contract: the decoders of persisted octets together.

Owns:
- none of them reads behind the octets it is given or writes behind its arrays, and
  all of them end.

Does not own: what they restore, which is that of the models over lists.
-/

namespace FswCore

open Library

/-- Whatever the octets. The loops over a count read from them have ended after 65536
rounds, the record walk after one for every octet; `payload_len` has 16 bits, whatever
the largest payload is built as. -/
structure FlashDecodersInBounds (cfg : Config) : Prop where
  locate : ∀ payload : List UInt8, payload.length < 65536 →
    ∀ recordType rounds, payload.length < rounds →
      EndsRight (nvstoreLocateChecked rounds payload recordType) fun located =>
        (∀ off total, located = .found off total → RecordInside payload recordType off total) ∧
          ∀ store, Nvstore.Keeps store payload → located = nvstoreLocate store recordType
  schedule : ∀ (memory : ScheduleMemory cfg) (input : List UInt8) (rounds : Nat), 65536 ≤ rounds →
    EndsRight (scheduleDeserializeChecked rounds memory input) fun result =>
      (result.1, result.2.schedule) = scheduleDeserialize cfg memory.schedule input
  hkstore : ∀ (memory : HkMemory cfg) (input : List UInt8) (rounds : Nat), 65536 ≤ rounds →
    EndsRight (hkstoreDeserializeChecked rounds memory input) fun result =>
      (result.1, result.2.hkstore) = hkstoreDeserialize cfg input
  datapool : ∀ (memory : DatapoolMemory cfg) (input : List UInt8) (rounds : Nat), 65536 ≤ rounds →
    EndsRight (datapoolDeserializeChecked rounds memory input) fun result =>
      (result.1, result.2.datapool) = datapoolDeserialize memory.datapool input

theorem flashDecoders_inBounds (cfg : Config) : FlashDecodersInBounds cfg where
  locate _ small recordType _ enough := nvstoreLocateChecked_right small recordType enough
  schedule memory input _ enough := scheduleDeserializeChecked_right memory input enough
  hkstore memory input _ enough := hkstoreDeserializeChecked_right memory input enough
  datapool memory input _ enough := datapoolDeserializeChecked_right memory input enough

end FswCore
