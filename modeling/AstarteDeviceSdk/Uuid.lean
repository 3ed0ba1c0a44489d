import AstarteDeviceSdk.AstarteData

/-! UUIDs as Astarte values (`src/types/uuid.rs`): `BinUuid` travels as a 16-byte binary blob and
`StrUuid` as the hyphenated string. The `uuid` crate's byte layout, `Display` and `parse_str` are
modelled from its documented behaviour. -/

namespace AstarteDeviceSdk.Types

/-- The `uuid` crate's `Uuid`: sixteen bytes. -/
structure Uuid where
  bytes : List UInt8
  length_eq : bytes.length = 16
  deriving DecidableEq, Repr

theorem Uuid.ext {a b : Uuid} (same : a.bytes = b.bytes) : a = b := by
  cases a
  cases b
  cases same
  rfl

/-- `Uuid::from_slice`, which `TryFrom<Vec<u8>>` calls: exactly sixteen bytes. -/
def Uuid.fromSlice (bytes : List UInt8) : Option Uuid :=
  if length : bytes.length = 16 then some ⟨bytes, length⟩ else none

def hexDigit (n : Nat) : Char := if n < 10 then Char.ofNat (48 + n) else Char.ofNat (87 + n)

def byteHex (byte : UInt8) : List Char := [hexDigit (byte.toNat / 16), hexDigit (byte.toNat % 16)]

/-- The `uuid` crate's `HEX_TABLE`: digits of either case. -/
def hexValue (c : Char) : Option Nat :=
  if '0' ≤ c ∧ c ≤ '9' then some (c.toNat - 48)
  else if 'a' ≤ c ∧ c ≤ 'f' then some (c.toNat - 87)
  else if 'A' ≤ c ∧ c ≤ 'F' then some (c.toNat - 55)
  else none

def parseSimple : List Char → Option (List UInt8)
  | [] => some []
  | high :: low :: rest =>
      match hexValue high, hexValue low, parseSimple rest with
      | some high, some low, some bytes => some (UInt8.ofNat (high * 16 + low) :: bytes)
      | _, _, _ => none
  | [_] => none

def parseHyphenated (input : List Char) : Option (List UInt8) :=
  match input.splitOn '-' with
  | [a, b, c, d, e] =>
      if a.length = 8 ∧ b.length = 4 ∧ c.length = 4 ∧ d.length = 4 ∧ e.length = 12 then
        parseSimple (a ++ b ++ c ++ d ++ e)
      else none
  | _ => none

/-- `try_parse`, dispatched on the length: simple, hyphenated, braced and urn forms, the
`urn:uuid:` prefix compared ignoring ASCII case. -/
def tryParse (input : List Char) : Option (List UInt8) :=
  if input.length = 32 then parseSimple input
  else if input.length = 36 then parseHyphenated input
  else if input.length = 38 ∧ input.head? = some '{' ∧ input.getLast? = some '}' then
    parseHyphenated (input.drop 1).dropLast
  else if input.length = 45 ∧ (input.take 9).map Char.toLower = "urn:uuid:".data then
    parseHyphenated (input.drop 9)
  else none

theorem parseSimple_length {input : List Char} {bytes : List UInt8} (parsed : parseSimple input = some bytes) :
    input.length = 2 * bytes.length := by
  induction input using parseSimple.induct generalizing bytes with
  | case1 => cases parsed; rfl
  | case2 high low rest high' low' rest' restParsed lowValue highValue ih =>
      simp only [parseSimple, highValue, lowValue, restParsed, Option.some.injEq] at parsed
      subst parsed
      simp only [List.length_cons, ih restParsed]
      omega
  | case3 high low rest failed =>
      unfold parseSimple at parsed
      split at parsed
      · cases parsed
        exact (failed _ _ _ ‹_› ‹_› ‹_›).elim
      · cases parsed
  | case4 => cases parsed

theorem parseHyphenated_length {input : List Char} {bytes : List UInt8}
    (parsed : parseHyphenated input = some bytes) : bytes.length = 16 := by
  unfold parseHyphenated at parsed
  split at parsed
  · split at parsed
    · have := parseSimple_length parsed
      simp only [List.length_append] at this
      omega
    · cases parsed
  · cases parsed

theorem tryParse_length {input : List Char} {bytes : List UInt8} (parsed : tryParse input = some bytes) :
    bytes.length = 16 := by
  unfold tryParse at parsed
  split_ifs at parsed
  · have := parseSimple_length parsed
    omega
  all_goals exact parseHyphenated_length parsed

/-- `Uuid::parse_str`. -/
def Uuid.parseStr (input : String) : Option Uuid :=
  match parsed : tryParse input.data with
  | some bytes => some ⟨bytes, tryParse_length parsed⟩
  | none => none

def hyphenatedGroups (bytes : List UInt8) : List (List UInt8) :=
  [bytes.take 4, (bytes.drop 4).take 2, (bytes.drop 6).take 2, (bytes.drop 8).take 2, bytes.drop 10]

/-- `Display for Uuid`: lower-case hex digits, hyphenated. -/
def Uuid.toString (uuid : Uuid) : String :=
  ⟨['-'].intercalate ((hyphenatedGroups uuid.bytes).map fun group => group.flatMap byteHex)⟩

theorem hexValue_hexDigit : ∀ n : Fin 16, hexValue (hexDigit n.val) = some n.val := by decide
theorem hexDigit_ne_hyphen : ∀ n : Fin 16, hexDigit n.val ≠ '-' := by decide
theorem hyphenatedGroups_flatten (bytes : List UInt8) : (hyphenatedGroups bytes).flatten = bytes := by
  simp only [hyphenatedGroups, List.flatten, List.append_nil]
  conv => rhs; rw [← List.take_append_drop 4 bytes, ← List.take_append_drop 2 (bytes.drop 4),
    ← List.take_append_drop 2 ((bytes.drop 4).drop 2), ← List.take_append_drop 2 (((bytes.drop 4).drop 2).drop 2)]
  simp [List.drop_drop]

theorem flatMap_byteHex_cons (byte : UInt8) (rest : List UInt8) :
    (byte :: rest).flatMap byteHex = hexDigit (byte.toNat / 16) :: hexDigit (byte.toNat % 16) :: rest.flatMap byteHex := rfl

theorem parseSimple_flatMap_byteHex (bytes : List UInt8) : parseSimple (bytes.flatMap byteHex) = some bytes := by
  induction bytes with
  | nil => rfl
  | cons byte rest ih =>
      have bound : byte.toNat < 256 := byte.toNat_lt_size
      have high := hexValue_hexDigit ⟨byte.toNat / 16, by omega⟩
      have low := hexValue_hexDigit ⟨byte.toNat % 16, by omega⟩
      rw [flatMap_byteHex_cons, parseSimple, high, low, ih]
      simp only [Option.some.injEq, List.cons.injEq, and_true]
      exact UInt8.toNat.inj (by rw [UInt8.toNat_ofNat_of_lt (by unfold UInt8.size; omega)]; omega)

theorem length_flatMap_byteHex (bytes : List UInt8) : (bytes.flatMap byteHex).length = 2 * bytes.length := by
  induction bytes with
  | nil => rfl
  | cons byte rest ih => rw [flatMap_byteHex_cons]; simp [ih]; omega

theorem hyphen_not_mem_byteHex (bytes : List UInt8) : '-' ∉ bytes.flatMap byteHex := by
  induction bytes with
  | nil => simp
  | cons byte rest ih =>
      have bound : byte.toNat < 256 := byte.toNat_lt_size
      rw [flatMap_byteHex_cons]
      simp only [List.mem_cons, not_or]
      exact ⟨(hexDigit_ne_hyphen ⟨byte.toNat / 16, by omega⟩).symm,
        (hexDigit_ne_hyphen ⟨byte.toNat % 16, by omega⟩).symm, ih⟩

theorem parseHyphenated_toString (uuid : Uuid) : parseHyphenated uuid.toString.data = some uuid.bytes := by
  have noHyphen : ∀ group ∈ (hyphenatedGroups uuid.bytes).map fun group => group.flatMap byteHex, '-' ∉ group := by
    simp only [List.mem_map]
    rintro _ ⟨group, -, rfl⟩
    exact hyphen_not_mem_byteHex group
  have split := List.splitOn_intercalate _ '-' noHyphen (by simp [hyphenatedGroups])
  have length := uuid.length_eq
  have whole := hyphenatedGroups_flatten uuid.bytes
  unfold parseHyphenated Uuid.toString
  rw [split]
  simp only [hyphenatedGroups, List.map_cons, List.map_nil, length_flatMap_byteHex, List.length_take, List.length_drop, length] at whole ⊢
  simp only [← List.flatMap_append, List.append_assoc]
  simp only [List.flatten, List.append_nil, List.append_assoc] at whole
  simp [whole, parseSimple_flatMap_byteHex]

theorem length_toString (uuid : Uuid) : uuid.toString.data.length = 36 := by
  have length := uuid.length_eq
  have shape : ∀ a b c d e : List Char,
      (['-'].intercalate [a, b, c, d, e]).length = a.length + b.length + c.length + d.length + e.length + 4 := by
    intro a b c d e
    simp [List.intercalate]
    omega
  simp only [Uuid.toString, hyphenatedGroups, List.map_cons, List.map_nil, shape, length_flatMap_byteHex,
    List.length_take, List.length_drop, length]
  omega

theorem tryParse_toString (uuid : Uuid) : tryParse uuid.toString.data = some uuid.bytes := by
  unfold tryParse
  rw [length_toString, if_neg (by decide), if_pos rfl, parseHyphenated_toString]

theorem Uuid.parseStr_eq_some {input : String} {uuid : Uuid}
    (parsed : tryParse input.data = some uuid.bytes) : Uuid.parseStr input = some uuid := by
  unfold Uuid.parseStr
  split
  · rename_i bytes found
    rw [parsed, Option.some.injEq] at found
    subst found
    rfl
  · rename_i missing
    rw [parsed] at missing
    cases missing

theorem Uuid.parseStr_toString (uuid : Uuid) : Uuid.parseStr uuid.toString = some uuid :=
  Uuid.parseStr_eq_some (tryParse_toString uuid)

structure BinUuid where
  uuid : Uuid
  deriving DecidableEq, Repr

structure StrUuid where
  uuid : Uuid
  deriving DecidableEq, Repr

namespace BinUuid

/-- `From<BinUuid> for AstarteData`. -/
def toAstarteData (value : BinUuid) : AstarteData := .binaryBlob value.uuid.bytes

/-- `PartialEq<AstarteData> for BinUuid`, which calls `PartialEq<BinUuid> for AstarteData`. -/
def eqAstarteData (value : BinUuid) (other : AstarteData) : Bool :=
  match other with
  | .binaryBlob bytes => bytes == value.uuid.bytes
  | _ => false

/-- `TryFrom<AstarteData> for BinUuid`. -/
def tryFrom (value : AstarteData) : Except TypeError BinUuid :=
  match value with
  | .binaryBlob bytes =>
      match Uuid.fromSlice bytes with
      | some uuid => .ok ⟨uuid⟩
      | none => .error (.conversion "couldn't parse binary UUID")
  | value => .error (.conversion ("from " ++ value.displayType ++ " into binary UUID"))

end BinUuid

namespace StrUuid

/-- `From<StrUuid> for AstarteData`. -/
def toAstarteData (value : StrUuid) : AstarteData := .string value.uuid.toString

/-- `PartialEq<AstarteData> for StrUuid`, which calls `PartialEq<StrUuid> for AstarteData`: the
string is parsed, not compared with the encoding. -/
def eqAstarteData (value : StrUuid) (other : AstarteData) : Bool :=
  match other with
  | .string text =>
      match Uuid.parseStr text with
      | some parsed => parsed == value.uuid
      | none => false
  | _ => false

/-- `TryFrom<AstarteData> for StrUuid`; the wrong-variant text is the source's. -/
def tryFrom (value : AstarteData) : Except TypeError StrUuid :=
  match value with
  | .string text =>
      match Uuid.parseStr text with
      | some uuid => .ok ⟨uuid⟩
      | none => .error (.conversion "couldn't parse string UUID")
  | value => .error (.conversion ("from " ++ value.displayType ++ " into binary UUID"))

end StrUuid

/-- `PartialEq<BinUuid> for AstarteData`. -/
def AstarteData.eqBinUuid (data : AstarteData) (other : BinUuid) : Bool := other.eqAstarteData data

/-- `PartialEq<StrUuid> for AstarteData`. -/
def AstarteData.eqStrUuid (data : AstarteData) (other : StrUuid) : Bool := other.eqAstarteData data

theorem Uuid.fromSlice_eq_some {bytes : List UInt8} {uuid : Uuid} :
    Uuid.fromSlice bytes = some uuid ↔ bytes = uuid.bytes := by
  unfold Uuid.fromSlice
  split
  · constructor
    · rintro ⟨⟩
      rfl
    · rintro rfl
      rfl
  · rename_i length
    refine ⟨fun failed => (by cases failed), fun same => absurd (same ▸ uuid.length_eq) length⟩

theorem BinUuid.eqAstarteData_iff (value : BinUuid) (data : AstarteData) :
    value.eqAstarteData data = true ↔ data = value.toAstarteData := by
  cases data <;> simp [eqAstarteData, toAstarteData]

theorem BinUuid.tryFrom_eq_ok_iff (value : BinUuid) (data : AstarteData) :
    BinUuid.tryFrom data = .ok value ↔ data = value.toAstarteData := by
  cases data with
  | binaryBlob bytes =>
      simp only [tryFrom, toAstarteData, AstarteData.binaryBlob.injEq]
      cases sliced : Uuid.fromSlice bytes with
      | none =>
          refine ⟨fun failed => (by cases failed), fun same => ?_⟩
          rw [same, show Uuid.fromSlice value.uuid.bytes = some value.uuid from
            Uuid.fromSlice_eq_some.mpr rfl] at sliced
          cases sliced
      | some uuid =>
          rw [Uuid.fromSlice_eq_some] at sliced
          subst sliced
          constructor
          · rintro ⟨⟩
            rfl
          · intro same
            rw [show uuid = value.uuid from Uuid.ext same]
  | _ => simp [tryFrom, toAstarteData]

theorem StrUuid.tryFrom_eq_ok_iff (value : StrUuid) (data : AstarteData) :
    StrUuid.tryFrom data = .ok value ↔ value.eqAstarteData data = true := by
  cases data with
  | string text =>
      simp only [tryFrom, eqAstarteData]
      cases Uuid.parseStr text with
      | none => simp
      | some parsed =>
          simp only [Except.ok.injEq, beq_iff_eq]
          exact ⟨fun same => (by rw [← same]), fun same => (by rw [same])⟩
  | _ => simp [tryFrom, eqAstarteData]

theorem BinUuid.eq_of_eq_same (value : BinUuid) {left right : AstarteData}
    (leftEq : left.eqBinUuid value = true) (rightEq : value.eqAstarteData right = true) :
    left = right := by
  rw [AstarteData.eqBinUuid, BinUuid.eqAstarteData_iff] at leftEq
  rw [BinUuid.eqAstarteData_iff] at rightEq
  rw [leftEq, rightEq]

theorem BinUuid.eq_of_eq_same_nil :
    (AstarteData.binaryBlob (List.replicate 16 0)).eqBinUuid ⟨⟨List.replicate 16 0, rfl⟩⟩ = true ∧
      BinUuid.eqAstarteData ⟨⟨List.replicate 16 0, rfl⟩⟩
        (AstarteData.binaryBlob (List.replicate 16 0)) = true ∧
      AstarteData.binaryBlob (List.replicate 16 0) = AstarteData.binaryBlob (List.replicate 16 0) :=
  ⟨by decide, by decide,
    BinUuid.eq_of_eq_same ⟨⟨List.replicate 16 0, rfl⟩⟩ (by decide) (by decide)⟩

/-- Both codecs round-trip every UUID, and each equality with `AstarteData` holds exactly when
the conversion back succeeds with that UUID. -/
theorem uuid_codecs (uuid : Uuid) (data : AstarteData) :
    BinUuid.tryFrom (BinUuid.toAstarteData ⟨uuid⟩) = .ok ⟨uuid⟩ ∧
    StrUuid.tryFrom (StrUuid.toAstarteData ⟨uuid⟩) = .ok ⟨uuid⟩ ∧
    (data.eqBinUuid ⟨uuid⟩ = true ↔ BinUuid.tryFrom data = .ok ⟨uuid⟩) ∧
    (data.eqStrUuid ⟨uuid⟩ = true ↔ StrUuid.tryFrom data = .ok ⟨uuid⟩) := by
  refine ⟨(BinUuid.tryFrom_eq_ok_iff _ _).mpr rfl, ?_,
    by rw [AstarteData.eqBinUuid, BinUuid.eqAstarteData_iff, BinUuid.tryFrom_eq_ok_iff],
    (StrUuid.tryFrom_eq_ok_iff _ _).symm⟩
  simp [StrUuid.tryFrom, StrUuid.toAstarteData, Uuid.parseStr_toString]

theorem strUuid_eq_not_transitive :
    (AstarteData.string "A0000000-0000-0000-0000-000000000000").eqStrUuid
        ⟨⟨[0xA0, 0, 0, 0, 0, 0, 0, 0, 0, 0, 0, 0, 0, 0, 0, 0], rfl⟩⟩ = true ∧
      StrUuid.eqAstarteData ⟨⟨[0xA0, 0, 0, 0, 0, 0, 0, 0, 0, 0, 0, 0, 0, 0, 0, 0], rfl⟩⟩
        (.string "a0000000-0000-0000-0000-000000000000") = true ∧
      (AstarteData.string "A0000000-0000-0000-0000-000000000000" ==
        .string "a0000000-0000-0000-0000-000000000000") = false := by
  decide

theorem strUuid_eq_spellings (uuid : Uuid) :
    (AstarteData.string uuid.toString).eqStrUuid ⟨uuid⟩ = true ∧
      StrUuid.eqAstarteData ⟨uuid⟩ (.string ⟨uuid.bytes.flatMap byteHex⟩) = true ∧
      (AstarteData.string uuid.toString == .string ⟨uuid.bytes.flatMap byteHex⟩) = false := by
  have long : (uuid.bytes.flatMap byteHex).length = 32 := by
    rw [length_flatMap_byteHex, uuid.length_eq]
  have simple : Uuid.parseStr ⟨uuid.bytes.flatMap byteHex⟩ = some uuid :=
    Uuid.parseStr_eq_some (by simp only [tryParse, long, if_true, parseSimple_flatMap_byteHex])
  have differ : uuid.toString ≠ ⟨uuid.bytes.flatMap byteHex⟩ := fun same => by
    have lengths := congrArg (·.data.length) same
    simp only [length_toString, long] at lengths
    omega
  refine ⟨?_, ?_, ?_⟩
  · simp [AstarteData.eqStrUuid, StrUuid.eqAstarteData, Uuid.parseStr_toString]
  · simp [StrUuid.eqAstarteData, simple]
  · simp [differ]

end AstarteDeviceSdk.Types
