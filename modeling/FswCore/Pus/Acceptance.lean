import FswCore.Pus.Router

/-!
Contract: the telecommands that acceptance lets through, as a grammar.

Owns:
- `encodeTc`, a telecommand built from its fields with the packers and the
  trailing checksum;
- acceptance accepts the encodings and nothing else, for the application process
  they name, and reads their own fields;
- the services it lets through are those of the dispatch table.
-/

namespace FswCore

open Library Library.BigEndian

/-- Acceptance without a complaint. -/
structure TcAccepted (tc : List UInt8) (expectedApid : UInt16) : Prop where
  addressed : (tcAccept tc expectedApid).addressed = true
  fc : (tcAccept tc expectedApid).fc = .none

instance (tc : List UInt8) (expectedApid : UInt16) : Decidable (TcAccepted tc expectedApid) :=
  decidable_of_iff ((tcAccept tc expectedApid).addressed = true ∧
      (tcAccept tc expectedApid).fc = .none)
    ⟨fun both => ⟨both.1, both.2⟩, fun accepted => ⟨accepted.addressed, accepted.fc⟩⟩

/-! ### What a dispatch does with it -/

section Dispatch

variable {cfg : Config} {ctx : RouterCtx cfg} (nowSeconds : UInt32) {tc : List UInt8}
  {outCap : Nat}

/-- Routed, behind the acceptance report. -/
theorem tcRouterDispatch_accepted (accepted : TcAccepted tc ctx.apid)
    (room : tcRouterMaxTm ≤ outCap) :
    let v := tcAccept tc ctx.apid
    tcRouterDispatch ctx nowSeconds tc outCap =
      routerAccepted (routerAcceptanceRequested (routerCount ctx v) v nowSeconds tc outCap) v
        nowSeconds tc outCap := by
  simp [tcRouterDispatch, if_neg (Nat.not_lt.mpr room), accepted.addressed, accepted.fc]

/-- A context that is left alone, or counts a rejection and reports it. -/
theorem tcRouterDispatch_refused (refused : ¬TcAccepted tc ctx.apid) :
    let v := tcAccept tc ctx.apid
    let after := (tcRouterDispatch ctx nowSeconds tc outCap).ctx
    after = ctx ∨ after = (routerAcceptance (routerCount ctx v) v nowSeconds tc 0 outCap).ctx ∨
      after = (routerAcceptanceRequested (routerCount ctx v) v nowSeconds tc outCap).ctx := by
  simp only [tcRouterDispatch]
  split_ifs with short ignored wrongLength failed
  · exact .inl rfl
  · exact .inl rfl
  · exact .inr (.inl rfl)
  · exact .inr (.inr rfl)
  · exact absurd ⟨by simpa using ignored, not_not.mp failed⟩ refused

end Dispatch

/-! ### What acceptance has checked -/

def TcServiceRouted (service : UInt8) : Prop :=
  service = pusServiceTest ∨ service = pusServiceHousekeeping ∨
    service = pusServiceOnboardParameter ∨ service = pusServiceScheduling ∨
    service = pusServiceStorage

/-- Every check of the chain, with the headers it was made on. -/
structure TcChecked (tc : List UInt8) (expectedApid : UInt16) (primary : CcsdsPrimaryHeader)
    (sec : PusTcSecondaryHeader) : Prop where
  unpacked : ccsdsPrimaryUnpack tc = .ok primary
  version : primary.version = 0
  type : primary.type = ccsdsPacketTypeTc
  secHdrFlag : primary.secHdrFlag = 1
  seqFlags : primary.seqFlags = ccsdsSeqFlagsUnsegmented
  apid : primary.apid = expectedApid
  shortest : tcRouterMinTc ≤ tc.length
  length : tc.length = ccsdsPacketTotalSize primary.dataLength
  secondary : pusTcSecondaryUnpack (tc.drop ccsdsPrimaryHeaderSize) = .ok sec
  checksum : crc16CcittFalse (tc.take (tc.length - 2)) = be16At tc (tc.length - 2)
  pusVersion : sec.pusVersion = pusVersionC
  service : TcServiceRouted sec.serviceType

/-- The verdict on an accepted telecommand. -/
def tcVerdict (sec : PusTcSecondaryHeader) : TcAcceptResult where
  addressed := true
  fc := .none
  ackFlags := sec.ackFlags
  sourceId := sec.sourceId
  serviceType := sec.serviceType
  serviceSubtype := sec.serviceSubtype

theorem TcChecked.verdict {tc : List UInt8} {expectedApid : UInt16}
    {primary : CcsdsPrimaryHeader} {sec : PusTcSecondaryHeader}
    (checked : TcChecked tc expectedApid primary sec) :
    tcAccept tc expectedApid = tcVerdict sec := by
  have framing : ¬ (primary.version ≠ 0 ∨ primary.type ≠ ccsdsPacketTypeTc ∨
      primary.secHdrFlag ≠ 1 ∨ primary.seqFlags ≠ ccsdsSeqFlagsUnsegmented) := by
    rw [checked.version, checked.type, checked.secHdrFlag, checked.seqFlags]
    decide
  have sized : ¬ (tc.length < tcRouterMinTc ∨
      tc.length ≠ ccsdsPacketTotalSize primary.dataLength) :=
    fun wrong => wrong.elim (Nat.not_lt.mpr checked.shortest) (fun apart => apart checked.length)
  have routed : ¬ (sec.serviceType ≠ pusServiceTest ∧ sec.serviceType ≠ pusServiceHousekeeping ∧
      sec.serviceType ≠ pusServiceOnboardParameter ∧ sec.serviceType ≠ pusServiceScheduling ∧
      sec.serviceType ≠ pusServiceStorage) := by
    have service := checked.service
    unfold TcServiceRouted at service
    tauto
  simp only [tcAccept, checked.unpacked, checked.secondary]
  rw [if_neg framing, if_neg (not_not_intro checked.apid), if_neg sized,
    if_neg (not_not_intro checked.checksum), if_neg (not_not_intro checked.pusVersion),
    if_neg routed]
  rfl

theorem TcChecked.accepted {tc : List UInt8} {expectedApid : UInt16}
    {primary : CcsdsPrimaryHeader} {sec : PusTcSecondaryHeader}
    (checked : TcChecked tc expectedApid primary sec) : TcAccepted tc expectedApid := by
  constructor
  · rw [checked.verdict]
    rfl
  · rw [checked.verdict]
    rfl

/-- The only way through the chain. -/
theorem TcAccepted.checked {tc : List UInt8} {expectedApid : UInt16}
    (accepted : TcAccepted tc expectedApid) :
    ∃ primary sec, TcChecked tc expectedApid primary sec := by
  obtain ⟨addressed, fc⟩ := accepted
  cases unpacked : ccsdsPrimaryUnpack tc with
  | error _ => simp [tcAccept, unpacked] at addressed
  | ok primary =>
      simp only [tcAccept, unpacked] at addressed fc
      split at addressed
      · contradiction
      rename_i framing
      rw [if_neg framing] at fc
      split at addressed
      · contradiction
      rename_i apid
      rw [if_neg apid] at fc
      clear addressed
      split at fc
      · contradiction
      rename_i sized
      cases secondary : pusTcSecondaryUnpack (tc.drop ccsdsPrimaryHeaderSize) with
      | error _ =>
          rw [secondary] at fc
          contradiction
      | ok sec =>
          rw [secondary] at fc
          simp only at fc
          split at fc
          · contradiction
          rename_i checksum
          split at fc
          · contradiction
          rename_i pusVersion
          split at fc
          · contradiction
          rename_i service
          simp only [not_or, not_not] at framing sized
          have routed : TcServiceRouted sec.serviceType := by
            unfold TcServiceRouted
            tauto
          exact ⟨primary, sec,
            { unpacked := unpacked
              version := framing.1
              type := framing.2.1
              secHdrFlag := framing.2.2.1
              seqFlags := framing.2.2.2
              apid := not_not.mp apid
              shortest := Nat.le_of_not_lt sized.1
              length := sized.2
              secondary := secondary
              checksum := not_not.mp checksum
              pusVersion := not_not.mp pusVersion
              service := routed }⟩

/-! ### Encoding -/

/-- What the sender of a telecommand chooses. -/
structure TcFields where
  apid : UInt16
  seqCount : UInt16
  ackFlags : UInt8
  sourceId : UInt16
  serviceType : UInt8
  serviceSubtype : UInt8
  app : List UInt8
deriving DecidableEq, Repr

namespace TcFields

/-- The octets of the data field: secondary header, application data, checksum. -/
def dataField (fields : TcFields) : Nat := pusTcSecondaryHeaderSize + fields.app.length + 2

def primary (fields : TcFields) : CcsdsPrimaryHeader where
  version := 0
  type := ccsdsPacketTypeTc
  secHdrFlag := 1
  apid := fields.apid
  seqFlags := ccsdsSeqFlagsUnsegmented
  seqCount := fields.seqCount
  dataLength := UInt16.ofNat (fields.dataField - 1)

def secondary (fields : TcFields) : PusTcSecondaryHeader where
  pusVersion := pusVersionC
  ackFlags := fields.ackFlags
  serviceType := fields.serviceType
  serviceSubtype := fields.serviceSubtype
  sourceId := fields.sourceId

/-- The fields fit the packet, and the service is one of the dispatch table. -/
structure Encodable (cfg : Config) (fields : TcFields) : Prop where
  apid : fields.apid ≤ 0x7FF
  seqCount : fields.seqCount ≤ 0x3FFF
  ackFlags : fields.ackFlags ≤ 0xF
  service : fields.serviceType ∈ (routerDispatchTable cfg).map (·.1)
  dataField : fields.dataField ≤ 65536

end TcFields

/-- A telecommand from its fields; `none` if a packer refuses them. -/
def encodeTc (fields : TcFields) : Option (List UInt8) :=
  match ccsdsPrimaryPack fields.primary ccsdsPrimaryHeaderSize with
  | .error _ => none
  | .ok primary =>
      match pusTcSecondaryPack fields.secondary pusTcSecondaryHeaderSize with
      | .error _ => none
      | .ok secondary =>
          let covered := primary ++ secondary ++ fields.app
          some (covered ++ put16 (crc16CcittFalse covered))

/-- The fields the two unpackers and the router see in a telecommand. -/
def decodeTc (tc : List UInt8) : Option TcFields :=
  match ccsdsPrimaryUnpack tc with
  | .error _ => none
  | .ok primary =>
      match pusTcSecondaryUnpack (tc.drop ccsdsPrimaryHeaderSize) with
      | .error _ => none
      | .ok sec => some
          { apid := primary.apid
            seqCount := primary.seqCount
            ackFlags := sec.ackFlags
            sourceId := sec.sourceId
            serviceType := sec.serviceType
            serviceSubtype := sec.serviceSubtype
            app := routerAppData tc }

theorem mem_routerDispatchTable (cfg : Config) (service : UInt8) :
    service ∈ (routerDispatchTable cfg).map (·.1) ↔ TcServiceRouted service := by
  simp [routerDispatchTable, TcServiceRouted]

theorem TcFields.primary_inRange {cfg : Config} {fields : TcFields}
    (encodable : fields.Encodable cfg) : fields.primary.InRange :=
  ⟨by simp [TcFields.primary], by simp [TcFields.primary, ccsdsPacketTypeTc],
    by simp [TcFields.primary], encodable.apid,
    by simp [TcFields.primary, ccsdsSeqFlagsUnsegmented], encodable.seqCount⟩

/-- The packers accept encodable fields, and the octets are these. -/
theorem encodeTc_layout {cfg : Config} {fields : TcFields} (encodable : fields.Encodable cfg) :
    ∃ primary secondary,
      ccsdsPrimaryPack fields.primary ccsdsPrimaryHeaderSize = .ok primary ∧
      pusTcSecondaryPack fields.secondary pusTcSecondaryHeaderSize = .ok secondary ∧
      primary.length = ccsdsPrimaryHeaderSize ∧ secondary.length = pusTcSecondaryHeaderSize ∧
      encodeTc fields = some (primary ++ secondary ++ fields.app ++
        put16 (crc16CcittFalse (primary ++ secondary ++ fields.app))) := by
  obtain ⟨primary, packed, length⟩ :=
    ccsdsPrimaryPack_ok (TcFields.primary_inRange encodable) (Nat.le_refl ccsdsPrimaryHeaderSize)
  have inRange : ¬ (fields.secondary.pusVersion > 0xF ∨ fields.secondary.ackFlags > 0xF) := by
    rintro (version | flags)
    · simp [TcFields.secondary, pusVersionC] at version
    · exact UInt8.not_lt.mpr encodable.ackFlags flags
  have secondaryPacked : ∃ secondary,
      pusTcSecondaryPack fields.secondary pusTcSecondaryHeaderSize = .ok secondary ∧
        secondary.length = pusTcSecondaryHeaderSize := by
    rw [pusTcSecondaryPack, if_neg (Nat.lt_irrefl _), if_neg inRange]
    exact ⟨_, rfl, rfl⟩
  obtain ⟨secondary, secPacked, secLength⟩ := secondaryPacked
  refine ⟨primary, secondary, packed, secPacked, length, secLength, ?_⟩
  rw [encodeTc]
  simp only [packed, secPacked]

theorem TcFields.dataLength_toNat {cfg : Config} {fields : TcFields}
    (encodable : fields.Encodable cfg) :
    fields.primary.dataLength.toNat = fields.dataField - 1 := by
  have fits := encodable.dataField
  rw [TcFields.primary, UInt16.toNat_ofNat']
  exact Nat.mod_eq_of_lt (by rw [TcFields.dataField] at fits ⊢; omega)

/-- An encoding passes every check, on the headers it was built from. -/
theorem encodeTc_checked {cfg : Config} {fields : TcFields} {tc : List UInt8}
    (encodable : fields.Encodable cfg) (encoded : encodeTc fields = some tc) :
    TcChecked tc fields.apid fields.primary fields.secondary := by
  obtain ⟨primary, secondary, packed, secPacked, length, secLength, layout⟩ :=
    encodeTc_layout encodable
  rw [layout] at encoded
  obtain rfl := Option.some.inj encoded
  generalize crc : crc16CcittFalse (primary ++ secondary ++ fields.app) = checksum
  have unpacked := ccsdsPrimaryUnpack_pack packed
    (secondary ++ (fields.app ++ put16 checksum))
  have secUnpacked := pusTcSecondaryUnpack_pack secPacked (fields.app ++ put16 checksum)
  have shape : primary ++ secondary ++ fields.app ++ put16 checksum =
      primary ++ (secondary ++ (fields.app ++ put16 checksum)) := by
    simp only [List.append_assoc]
  have front : (primary ++ secondary ++ fields.app).length = fields.dataField + 4 := by
    simp only [List.length_append, length, secLength, ccsdsPrimaryHeaderSize, TcFields.dataField]
    omega
  have total : (primary ++ secondary ++ fields.app ++ put16 checksum).length =
      fields.dataField + 6 := by
    rw [List.length_append, front, put16_length]
  have crcAt : (primary ++ secondary ++ fields.app ++ put16 checksum).length - 2 =
      (primary ++ secondary ++ fields.app).length := by
    rw [total, front]
    omega
  have atLeast : 7 ≤ fields.dataField := by
    simp only [TcFields.dataField, pusTcSecondaryHeaderSize]
    omega
  constructor
  · rw [shape]
    exact unpacked
  · rfl
  · rfl
  · rfl
  · rfl
  · rfl
  · rw [total, tcRouterMinTc, ccsdsPrimaryHeaderSize, pusTcSecondaryHeaderSize]
    omega
  · rw [total, ccsdsPacketTotalSize, TcFields.dataLength_toNat encodable, ccsdsPrimaryHeaderSize]
    omega
  · rw [shape, ← length, List.drop_left]
    exact secUnpacked
  · have read := be16At_append (primary ++ secondary ++ fields.app) [] checksum
    rw [List.append_nil] at read
    rw [crcAt, List.take_left, read, crc]
  · rfl
  · exact (mem_routerDispatchTable cfg _).mp encodable.service

/-! ### Accepted octets are an encoding -/

/-- The fields of a checked telecommand. -/
def fieldsOf (primary : CcsdsPrimaryHeader) (sec : PusTcSecondaryHeader) (tc : List UInt8) :
    TcFields where
  apid := primary.apid
  seqCount := primary.seqCount
  ackFlags := sec.ackFlags
  sourceId := sec.sourceId
  serviceType := sec.serviceType
  serviceSubtype := sec.serviceSubtype
  app := routerAppData tc

section Checked

variable {tc : List UInt8} {expectedApid : UInt16} {primary : CcsdsPrimaryHeader}
  {sec : PusTcSecondaryHeader}

theorem TcChecked.app_length (checked : TcChecked tc expectedApid primary sec) :
    (routerAppData tc).length = tc.length - 13 := by
  have shortest := checked.shortest
  simp only [tcRouterMinTc, ccsdsPrimaryHeaderSize, pusTcSecondaryHeaderSize] at shortest
  rw [routerAppData]
  simp only [ccsdsPrimaryHeaderSize, pusTcSecondaryHeaderSize]
  rw [window_length _ (by omega)]
  omega

theorem TcChecked.dataField (checked : TcChecked tc expectedApid primary sec) :
    (fieldsOf primary sec tc).dataField = primary.dataLength.toNat + 1 := by
  have shortest := checked.shortest
  have length := checked.length
  simp only [tcRouterMinTc, ccsdsPacketTotalSize, ccsdsPrimaryHeaderSize,
    pusTcSecondaryHeaderSize] at shortest length
  rw [TcFields.dataField, fieldsOf, checked.app_length, pusTcSecondaryHeaderSize]
  omega

/-- Both headers are those the encoder builds from the fields. -/
theorem TcChecked.headers (checked : TcChecked tc expectedApid primary sec) :
    (fieldsOf primary sec tc).primary = primary ∧
      (fieldsOf primary sec tc).secondary = sec := by
  constructor
  · have length : UInt16.ofNat ((fieldsOf primary sec tc).dataField - 1) = primary.dataLength := by
      rw [checked.dataField, Nat.add_sub_cancel, UInt16.ofNat_toNat]
    rw [TcFields.primary, length, ← checked.version, ← checked.type, ← checked.secHdrFlag,
      ← checked.seqFlags]
    rfl
  · rw [TcFields.secondary, ← checked.pusVersion]
    rfl

theorem TcChecked.encodable (cfg : Config) (checked : TcChecked tc expectedApid primary sec) :
    (fieldsOf primary sec tc).Encodable cfg := by
  obtain ⟨_, _, _, apid, _, seqCount⟩ := ccsdsPrimaryUnpack_inRange checked.unpacked
  constructor
  · exact apid
  · exact seqCount
  · have secondary := checked.secondary
    unfold pusTcSecondaryUnpack at secondary
    split_ifs at secondary
    obtain rfl := Except.ok.inj secondary
    have mask (value : Nat) : value &&& 15 = value % 16 := Nat.and_two_pow_sub_one_eq_mod value 4
    simp only [fieldsOf, UInt8.le_iff_toNat_le, UInt8.toNat_and, UInt8.reduceToNat, mask]
    omega
  · exact (mem_routerDispatchTable cfg _).mpr checked.service
  · have bound := primary.dataLength.toNat_lt
    rw [checked.dataField]
    omega

theorem TcChecked.decodes (checked : TcChecked tc expectedApid primary sec) :
    decodeTc tc = some (fieldsOf primary sec tc) := by
  simp only [decodeTc, checked.unpacked, checked.secondary]
  rfl

/-- Octet for octet: headers, application data and checksum. -/
theorem TcChecked.encodes (checked : TcChecked tc expectedApid primary sec) :
    encodeTc (fieldsOf primary sec tc) = some tc := by
  have shortest := checked.shortest
  simp only [tcRouterMinTc, ccsdsPrimaryHeaderSize, pusTcSecondaryHeaderSize] at shortest
  obtain ⟨samePrimary, sameSecondary⟩ := checked.headers
  have packed := ccsdsPrimaryPack_unpack checked.unpacked (Nat.le_refl ccsdsPrimaryHeaderSize)
  have secPacked := pusTcSecondaryPack_unpack checked.secondary
    (Nat.le_refl pusTcSecondaryHeaderSize)
  have front : tc.take ccsdsPrimaryHeaderSize ++
      (tc.drop ccsdsPrimaryHeaderSize).take pusTcSecondaryHeaderSize ++ routerAppData tc =
        tc.take (tc.length - 2) := by
    have bodyLength : tc.length - 2 = 11 + (tc.length - 11 - 2) := by omega
    rw [bodyLength, routerAppData, window, List.take_add (i := 11), ← List.take_add]
    rfl
  have octets := drop_eq_put16 tc (tc.length - 2) (by omega)
  have nothing : tc.drop (tc.length - 2 + 2) = [] :=
    List.drop_of_length_le (by omega)
  rw [nothing, List.append_nil] at octets
  rw [encodeTc, samePrimary, sameSecondary]
  simp only [packed, secPacked, fieldsOf]
  rw [front, checked.checksum, ← octets, List.take_append_drop]

end Checked

/-! ### The grammar -/

/-- Acceptance as the grammar of `encodeTc`, and the services it lets through. -/
structure AcceptanceGrammar (cfg : Config) : Prop where
  sound : ∀ fields : TcFields, fields.Encodable cfg →
    ∃ tc, encodeTc fields = some tc ∧ tcAccept tc fields.apid = tcVerdict fields.secondary
  complete : ∀ tc expectedApid, TcAccepted tc expectedApid →
    ∃ fields : TcFields, decodeTc tc = some fields ∧ fields.Encodable cfg ∧
      fields.apid = expectedApid ∧ encodeTc fields = some tc ∧
      tcAccept tc expectedApid = tcVerdict fields.secondary
  services : ∀ service, (∃ tc expectedApid, TcAccepted tc expectedApid ∧
      (tcAccept tc expectedApid).serviceType = service) ↔
    service ∈ (routerDispatchTable cfg).map (·.1)
  routed : ∀ tc expectedApid, TcAccepted tc expectedApid →
    ∃ entry ∈ routerDispatchTable cfg,
      entry.1 = (tcAccept tc expectedApid).serviceType ∧
      ∀ ctx nowSeconds outCap, routerRoute ctx (tcAccept tc expectedApid) nowSeconds tc outCap =
        entry.2 ctx (tcAccept tc expectedApid) nowSeconds tc outCap

/-- A request for a service without application data. -/
def TcFields.ofService (service : UInt8) : TcFields where
  apid := 0
  seqCount := 0
  ackFlags := 0
  sourceId := 0
  serviceType := service
  serviceSubtype := 0
  app := []

/-- A service of the table has a handler there, and the lookup finds it. -/
theorem routerRoute_routed (cfg : Config) {v : TcAcceptResult}
    (service : v.serviceType ∈ (routerDispatchTable cfg).map (·.1)) :
    ∃ entry ∈ routerDispatchTable cfg, entry.1 = v.serviceType ∧
      ∀ ctx nowSeconds tc outCap, routerRoute ctx v nowSeconds tc outCap =
        entry.2 ctx v nowSeconds tc outCap := by
  have found : ((routerDispatchTable cfg).find? fun entry => entry.1 == v.serviceType).isSome := by
    obtain ⟨entry, member, isService⟩ := List.mem_map.mp service
    rw [List.find?_isSome]
    exact ⟨entry, member, by simpa using isService⟩
  obtain ⟨entry, lookup⟩ := Option.isSome_iff_exists.mp found
  refine ⟨entry, List.mem_of_find?_eq_some lookup, ?_, ?_⟩
  · simpa using List.find?_some lookup
  · intro ctx nowSeconds tc outCap
    rw [routerRoute, lookup]

theorem tcAccept_grammar (cfg : Config) : AcceptanceGrammar cfg where
  sound := by
    intro fields encodable
    obtain ⟨_, _, _, _, _, _, encoded⟩ := encodeTc_layout encodable
    exact ⟨_, encoded, (encodeTc_checked encodable encoded).verdict⟩
  complete := by
    intro tc expectedApid accepted
    obtain ⟨primary, sec, checked⟩ := accepted.checked
    refine ⟨fieldsOf primary sec tc, checked.decodes, checked.encodable cfg, checked.apid,
      checked.encodes, ?_⟩
    rw [checked.headers.2]
    exact checked.verdict
  services := by
    intro service
    constructor
    · rintro ⟨tc, expectedApid, accepted, rfl⟩
      obtain ⟨primary, sec, checked⟩ := accepted.checked
      rw [checked.verdict]
      exact (mem_routerDispatchTable cfg _).mpr checked.service
    · intro listed
      have encodable : (TcFields.ofService service).Encodable cfg :=
        { apid := by simp [TcFields.ofService]
          seqCount := by simp [TcFields.ofService]
          ackFlags := by simp [TcFields.ofService]
          service := listed
          dataField := by simp [TcFields.ofService, TcFields.dataField, pusTcSecondaryHeaderSize] }
      obtain ⟨_, _, _, _, _, _, encoded⟩ := encodeTc_layout encodable
      have checked := encodeTc_checked encodable encoded
      refine ⟨_, _, checked.accepted, ?_⟩
      rw [checked.verdict]
      rfl
  routed := by
    intro tc expectedApid accepted
    obtain ⟨primary, sec, checked⟩ := accepted.checked
    have listed : (tcAccept tc expectedApid).serviceType ∈
        (routerDispatchTable cfg).map (·.1) := by
      rw [checked.verdict]
      exact (mem_routerDispatchTable cfg _).mpr checked.service
    obtain ⟨entry, member, isService, routes⟩ := routerRoute_routed cfg listed
    exact ⟨entry, member, isService, fun ctx nowSeconds outCap =>
      routes ctx nowSeconds tc outCap⟩

end FswCore
