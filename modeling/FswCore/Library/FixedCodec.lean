import Mathlib.Data.Set.Function

/-!
Contract: codecs between values and strings of one fixed length.

Owns:
- `FixedCodec`, a packer into a buffer and an unpacker from the front of a string that
  undo each other;
- such a codec is a bijection between the values in range and the strings of the
  length.

Does not own: any layout.
-/

namespace Library

variable {Value Symbol PackStatus UnpackStatus : Type*} {inRange : Value → Prop} {size : Nat}
  {pack : Value → Nat → Except PackStatus (List Symbol)}
  {unpack : List Symbol → Except UnpackStatus Value}

/-- Packing succeeds exactly on the values in range, if there is room; what is packed
is unpacked to the same value, whatever stands behind it; and what is unpacked from a
string of the length is packed to that string. -/
structure FixedCodec (inRange : Value → Prop) (size : Nat)
    (pack : Value → Nat → Except PackStatus (List Symbol))
    (unpack : List Symbol → Except UnpackStatus Value) : Prop where
  packs_iff : ∀ value room, (∃ symbols, pack value room = .ok symbols) ↔
    size ≤ room ∧ inRange value
  packs_size : ∀ value room symbols, pack value room = .ok symbols → symbols.length = size
  unpack_pack : ∀ value room symbols, pack value room = .ok symbols →
    ∀ behind, unpack (symbols ++ behind) = .ok value
  pack_unpack : ∀ symbols : List Symbol, symbols.length = size →
    ∃ value, unpack symbols = .ok value ∧ ∀ room, size ≤ room → pack value room = .ok symbols

/-- A packer that checks the room and the range, over an unpacker that only checks
the length. -/
theorem FixedCodec.of_checked
    (packs : ∀ value room, size ≤ room → inRange value →
      ∃ symbols, pack value room = .ok symbols ∧ symbols.length = size)
    (refuses : ∀ value room, ¬(size ≤ room ∧ inRange value) →
      ∃ status, pack value room = .error status)
    (unpack_pack : ∀ value room symbols, pack value room = .ok symbols →
      ∀ behind, unpack (symbols ++ behind) = .ok value)
    (unpacks : ∀ symbols : List Symbol, size ≤ symbols.length → ∃ value, unpack symbols = .ok value)
    (pack_unpack : ∀ symbols value, unpack symbols = .ok value →
      ∀ room, size ≤ room → pack value room = .ok (symbols.take size)) :
    FixedCodec inRange size pack unpack := by
  have fits (value : Value) (room : Nat) (symbols : List Symbol)
      (built : pack value room = .ok symbols) : size ≤ room ∧ inRange value := by
    by_contra outside
    obtain ⟨status, refused⟩ := refuses value room outside
    rw [built] at refused
    contradiction
  constructor
  · intro value room
    constructor
    · rintro ⟨symbols, built⟩
      exact fits value room symbols built
    · rintro ⟨enough, ranged⟩
      obtain ⟨symbols, built, _⟩ := packs value room enough ranged
      exact ⟨symbols, built⟩
  · intro value room symbols built
    obtain ⟨enough, ranged⟩ := fits value room symbols built
    obtain ⟨other, alsoBuilt, sized⟩ := packs value room enough ranged
    rw [built] at alsoBuilt
    rw [Except.ok.inj alsoBuilt]
    exact sized
  · exact unpack_pack
  · intro symbols sized
    obtain ⟨value, unpacked⟩ := unpacks symbols (Nat.le_of_eq sized.symm)
    refine ⟨value, unpacked, ?_⟩
    intro room enough
    rw [pack_unpack symbols value unpacked room enough, ← sized, List.take_length]

/-- The octets of a value, if it can be packed. -/
def packed (size : Nat) (pack : Value → Nat → Except PackStatus (List Symbol)) (value : Value) :
    List Symbol :=
  (pack value size).toOption.getD []

namespace FixedCodec

variable (codec : FixedCodec inRange size pack unpack)

include codec

theorem pack_packed {value : Value} (fits : inRange value) :
    pack value size = .ok (packed size pack value) := by
  obtain ⟨symbols, built⟩ := (codec.packs_iff value size).mpr ⟨Nat.le_refl size, fits⟩
  rw [packed, built]
  rfl

theorem unpack_packed {value : Value} (fits : inRange value) :
    unpack (packed size pack value) = .ok value := by
  have read := codec.unpack_pack value size _ (codec.pack_packed fits) []
  rwa [List.append_nil] at read

/-- Only values in range are unpacked from strings of the length. -/
theorem unpack_inRange {symbols : List Symbol} (sized : symbols.length = size) {value : Value}
    (unpacked : unpack symbols = .ok value) : inRange value := by
  obtain ⟨other, read, packs⟩ := codec.pack_unpack symbols sized
  obtain rfl := Except.ok.inj (read.symm.trans unpacked)
  exact ((codec.packs_iff other size).mp ⟨symbols, packs size (Nat.le_refl size)⟩).2

theorem packed_unpack {symbols : List Symbol} (sized : symbols.length = size) {value : Value}
    (unpacked : unpack symbols = .ok value) : packed size pack value = symbols := by
  obtain ⟨other, read, packs⟩ := codec.pack_unpack symbols sized
  obtain rfl := Except.ok.inj (read.symm.trans unpacked)
  rw [packed, packs size (Nat.le_refl size)]
  rfl

theorem bijOn :
    Set.BijOn (packed size pack) {value | inRange value} {symbols | symbols.length = size} := by
  refine ⟨?_, ?_, ?_⟩
  · intro value fits
    exact codec.packs_size value size _ (codec.pack_packed fits)
  · intro left leftFits right rightFits same
    have read := codec.unpack_packed leftFits
    rw [same, codec.unpack_packed rightFits] at read
    exact (Except.ok.inj read).symm
  · intro symbols sized
    obtain ⟨value, unpacked, _⟩ := codec.pack_unpack symbols sized
    exact ⟨value, codec.unpack_inRange sized unpacked, codec.packed_unpack sized unpacked⟩

end FixedCodec

end Library
