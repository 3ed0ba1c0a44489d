import AstarteDeviceSdk.Primitives

/-! The JSON form of a mapping (`astarte-interfaces/src/schema.rs`): its enums, the `Mapping`
record, the conversions of the retention fields, and what serde's default elision does to it. -/

namespace AstarteDeviceSdk.Schema

open Primitives

inductive SchemaError
  | negativeExpiry (expiry : I64)
  | negativeDatabaseRetentionTtl (ttl : I64)
  | databaseRetentionTtlTooLow (ttl : UInt64)
  | missingDatabaseRetentionTtl
  deriving DecidableEq, Repr

/-- The `thiserror` messages of `SchemaError`. -/
def SchemaError.message : SchemaError → String
  | .negativeExpiry expiry => "expiry cannot be negative " ++ toString expiry.val
  | .negativeDatabaseRetentionTtl ttl => "database retention ttl cannot be negative " ++ toString ttl.val
  | .databaseRetentionTtlTooLow ttl =>
      "database retention ttl must be greater than 60s, instead of " ++ toString ttl
  | .missingDatabaseRetentionTtl => "database retention ttl is missing, but policy is use_ttl"

def isNoneOrEmpty (value : Option String) : Bool :=
  match value with
  | some value => value.isEmpty
  | none => true

def isNoneOrDefault [Inhabited α] [DecidableEq α] (value : Option α) : Bool :=
  match value with
  | some value => value = default
  | none => true

inductive Ownership
  | device
  | server
  deriving DecidableEq, Repr

def Ownership.isDevice : Ownership → Bool
  | .device => true
  | .server => false

inductive MappingType
  | double
  | integer
  | boolean
  | longInteger
  | string
  | binaryBlob
  | dateTime
  | doubleArray
  | integerArray
  | booleanArray
  | longIntegerArray
  | stringArray
  | binaryBlobArray
  | dateTimeArray
  deriving DecidableEq, Repr

/-- `Display for MappingType`. -/
def MappingType.toString : MappingType → String
  | .double => "double"
  | .integer => "integer"
  | .boolean => "boolean"
  | .longInteger => "longinteger"
  | .string => "string"
  | .binaryBlob => "binaryblob"
  | .dateTime => "datetime"
  | .doubleArray => "doublearray"
  | .integerArray => "integerarray"
  | .booleanArray => "booleanarray"
  | .longIntegerArray => "longintegerarray"
  | .stringArray => "stringarray"
  | .binaryBlobArray => "binaryblobarray"
  | .dateTimeArray => "datetimearray"

inductive Reliability
  | unreliable
  | guaranteed
  | unique
  deriving DecidableEq, Repr

instance : Inhabited Reliability := ⟨.unreliable⟩

inductive Retention
  | discard
  | volatile
  | stored
  deriving DecidableEq, Repr

instance : Inhabited Retention := ⟨.discard⟩

inductive DatabaseRetentionPolicy
  | noTtl
  | useTtl
  deriving DecidableEq, Repr

instance : Inhabited DatabaseRetentionPolicy := ⟨.noTtl⟩

/-- `Mapping<T>` with `T = String`. -/
structure Mapping where
  endpoint : String
  mappingType : MappingType
  reliability : Option Reliability
  explicitTimestamp : Option Bool
  retention : Option Retention
  expiry : Option I64
  databaseRetentionPolicy : Option DatabaseRetentionPolicy
  databaseRetentionTtl : Option I64
  allowUnset : Option Bool
  description : Option String
  doc : Option String
  deriving DecidableEq, Repr

/-- Modelled from the spec: `interface::Retention` (not under src/), the union
`Discard | Volatile{expiry?} | Stored{expiry?}` where `None` is an infinite expiry. -/
inductive InterfaceRetention
  | discard
  | volatile (expiry : Option Duration)
  | stored (expiry : Option Duration)
  deriving DecidableEq, Repr

/-- Modelled from the spec: `interface::DatabaseRetention` (not under src/),
`NoTtl | UseTtl{ttl}`. -/
inductive InterfaceDatabaseRetention
  | noTtl
  | useTtl (ttl : Duration)
  deriving DecidableEq, Repr

/-- Modelled from the spec: `Retention::as_expiry` (not under src/), the expiry of the
volatile and stored retentions. -/
def InterfaceRetention.asExpiry : InterfaceRetention → Option Duration
  | .discard => none
  | .volatile expiry => expiry
  | .stored expiry => expiry

/-- Modelled from the spec: `Retention::as_expiry_seconds` (not under src/), the expiry in whole
seconds as an `i64`, saturating at `i64::MAX`. -/
def InterfaceRetention.asExpirySeconds (retention : InterfaceRetention) : Option I64 :=
  retention.asExpiry.map fun expiry => (Signed.ofU64? expiry.asSecs).getD I64.max

/-- Modelled from the spec: `From<interface::Retention> for schema::Retention` (not under src/). -/
def InterfaceRetention.toSchema : InterfaceRetention → Retention
  | .discard => .discard
  | .volatile _ => .volatile
  | .stored _ => .stored

/-- Modelled from the spec: `DatabaseRetention::as_ttl_secs` (not under src/), the ttl in whole
seconds as an `i64`, saturating at `i64::MAX`. -/
def InterfaceDatabaseRetention.asTtlSecs : InterfaceDatabaseRetention → Option I64
  | .noTtl => none
  | .useTtl ttl => some ((Signed.ofU64? ttl.asSecs).getD I64.max)

/-- Modelled from the spec: `From<interface::DatabaseRetention> for DatabaseRetentionPolicy`
(not under src/). -/
def InterfaceDatabaseRetention.toSchema : InterfaceDatabaseRetention → DatabaseRetentionPolicy
  | .noTtl => .noTtl
  | .useTtl _ => .useTtl

/-- What the schema fields encode without loss: an expiry of whole seconds from 1 s, a ttl of
whole seconds from 60 s, both up to `i64::MAX` s. -/
def InterfaceRetention.Representable (retention : InterfaceRetention) : Prop :=
  ∀ expiry, retention.asExpiry = some expiry → expiry.WholeSecsFrom 1

def InterfaceDatabaseRetention.Representable : InterfaceDatabaseRetention → Prop
  | .noTtl => True
  | .useTtl ttl => ttl.WholeSecsFrom 60

namespace Mapping

def expiryAsDuration (mapping : Mapping) : Except SchemaError (Option Duration) :=
  match mapping.expiry.filter fun expiry => expiry.val ≠ 0 with
  | none => .ok none
  | some expiry =>
      match expiry.toU64? with
      | some secs => .ok (some (Duration.fromSecs secs))
      | none => .error (.negativeExpiry expiry)

/-- The discard branch only logs a positive expiry, it never reads it. -/
def retentionWithExpiry (mapping : Mapping) : Except SchemaError InterfaceRetention :=
  match mapping.retention.getD default with
  | .discard => .ok .discard
  | .volatile => mapping.expiryAsDuration.map .volatile
  | .stored => mapping.expiryAsDuration.map .stored

def databaseRetentionTtlAsDuration (mapping : Mapping) : Except SchemaError (Option Duration) :=
  match mapping.databaseRetentionTtl with
  | none => .ok none
  | some ttl =>
      match ttl.toU64? with
      | none => .error (.negativeDatabaseRetentionTtl ttl)
      | some secs =>
          if secs < 60 then .error (.databaseRetentionTtlTooLow secs)
          else .ok (some (Duration.fromSecs secs))

/-- The `no_ttl` branch only logs a present ttl, it never reads it. -/
def databaseRetentionWithTtl (mapping : Mapping) : Except SchemaError InterfaceDatabaseRetention :=
  match mapping.databaseRetentionPolicy.getD default with
  | .noTtl => .ok .noTtl
  | .useTtl =>
      (mapping.databaseRetentionTtlAsDuration.bind fun ttl =>
        match ttl with
        | some ttl => .ok ttl
        | none => .error .missingDatabaseRetentionTtl).map .useTtl

end Mapping

/-- A field marked `skip_serializing_if = "is_none_or_default"` and `serde(default)`, after
serializing and deserializing: absent when it was absent or held its default. -/
def elideDefault [Inhabited α] [DecidableEq α] (value : Option α) : Option α :=
  if isNoneOrDefault value then none else value

def elideEmpty (value : Option String) : Option String :=
  if isNoneOrEmpty value then none else value

/-- The mapping that serializing with the `skip_serializing_if` attributes and deserializing with
`serde(default)` gives back. -/
def Mapping.elide (mapping : Mapping) : Mapping :=
  { mapping with
    reliability := elideDefault mapping.reliability
    explicitTimestamp := elideDefault mapping.explicitTimestamp
    retention := elideDefault mapping.retention
    expiry := elideDefault mapping.expiry
    databaseRetentionPolicy := elideDefault mapping.databaseRetentionPolicy
    databaseRetentionTtl := elideDefault mapping.databaseRetentionTtl
    allowUnset := elideDefault mapping.allowUnset
    description := elideEmpty mapping.description
    doc := elideEmpty mapping.doc }

namespace Mapping

variable {mapping other : Mapping}

theorem expiryAsDuration_eq_ok_none_iff :
    mapping.expiryAsDuration = .ok none ↔ mapping.expiry = none ∨ ∃ e, mapping.expiry = some e ∧ e.val = 0 := by
  unfold expiryAsDuration
  rcases mapping.expiry with _ | e
  · simp
  · by_cases zero : e.val = 0
    · simp [Option.filter, zero]
    · cases converted : e.toU64? <;> simp [Option.filter, zero, converted]

theorem expiryAsDuration_eq_ok_some_iff {duration : Duration} :
    mapping.expiryAsDuration = .ok (some duration) ↔
      ∃ e secs, mapping.expiry = some e ∧ e.val ≠ 0 ∧ e.toU64? = some secs ∧
        duration = Duration.fromSecs secs := by
  unfold expiryAsDuration
  rcases mapping.expiry with _ | e
  · simp
  · by_cases zero : e.val = 0
    · simp [Option.filter, zero]
    · cases converted : e.toU64? <;> simp [Option.filter, zero, converted, eq_comm]

theorem expiryAsDuration_eq_error_iff {error : SchemaError} :
    mapping.expiryAsDuration = .error error ↔
      ∃ e, mapping.expiry = some e ∧ e.val < 0 ∧ error = .negativeExpiry e := by
  unfold expiryAsDuration
  rcases mapping.expiry with _ | e
  · simp
  · by_cases zero : e.val = 0
    · simp [Option.filter, zero]
    · cases converted : e.toU64?
      · have := Signed.toU64?_eq_none.mp converted
        simp [Option.filter, zero, converted, this, eq_comm]
      · have := (Signed.toU64?_eq_some converted).1
        simp [Option.filter, zero, converted]
        omega

theorem expiryAsDuration_of_pos {e : I64} (present : mapping.expiry = some e) (positive : 0 < e.val) :
    mapping.expiryAsDuration = .ok (some (Duration.fromSecs (UInt64.ofNat e.val.toNat))) :=
  expiryAsDuration_eq_ok_some_iff.mpr
    ⟨e, _, present, by omega, Signed.toU64?_of_nonneg (by omega), rfl⟩

theorem expiryAsDuration_encode {expiry : Option Duration}
    (whole : ∀ duration, expiry = some duration → duration.WholeSecsFrom 1)
    (encoded : mapping.expiry = expiry.map fun expiry => (Signed.ofU64? expiry.asSecs).getD I64.max) :
    mapping.expiryAsDuration = .ok expiry := by
  rcases expiry with _ | duration
  · simp [expiryAsDuration, encoded]
  · obtain ⟨nanos, least, small⟩ := whole duration rfl
    obtain ⟨e, converted, back, same⟩ := Signed.ofU64?_of_lt small
    refine expiryAsDuration_eq_ok_some_iff.mpr
      ⟨e, duration.secs, ?_, by omega, back, (Duration.fromSecs_secs nanos).symm⟩
    simp [encoded, Duration.asSecs, converted]

theorem expiryAsDuration_wholeSecs {expiry : Option Duration}
    (decoded : mapping.expiryAsDuration = .ok expiry) :
    ∀ duration, expiry = some duration → duration.WholeSecsFrom 1 := by
  rintro duration rfl
  obtain ⟨e, secs, -, nonzero, converted, rfl⟩ := expiryAsDuration_eq_ok_some_iff.mp decoded
  have ⟨_, same⟩ := Signed.toU64?_eq_some converted
  have := e.lt
  exact ⟨rfl, show 1 ≤ secs.toNat by omega, show secs.toNat < 2 ^ 63 by omega⟩

theorem expiryAsDuration_isOk :
    (∃ expiry, mapping.expiryAsDuration = .ok expiry) ↔ ∀ e, mapping.expiry = some e → 0 ≤ e.val := by
  constructor
  · rintro ⟨expiry, decoded⟩ e present
    refine Int.not_lt.mp fun negative => ?_
    have failed := expiryAsDuration_eq_error_iff.mpr ⟨e, present, negative, rfl⟩
    rw [decoded] at failed
    cases failed
  · intro nonnegative
    cases decoded : mapping.expiryAsDuration with
    | ok expiry => exact ⟨expiry, rfl⟩
    | error error =>
        obtain ⟨e, present, negative, -⟩ := expiryAsDuration_eq_error_iff.mp decoded
        exact absurd (nonnegative e present) (by omega)

theorem retentionWithExpiry_discard (discard : mapping.retention.getD default = .discard) :
    mapping.retentionWithExpiry = .ok .discard := by
  simp [retentionWithExpiry, discard]

theorem retentionWithExpiry_volatile (volatile : mapping.retention.getD default = .volatile) :
    mapping.retentionWithExpiry = mapping.expiryAsDuration.map .volatile := by
  simp [retentionWithExpiry, volatile]

theorem retentionWithExpiry_stored (stored : mapping.retention.getD default = .stored) :
    mapping.retentionWithExpiry = mapping.expiryAsDuration.map .stored := by
  simp [retentionWithExpiry, stored]

theorem retentionWithExpiry_isOk :
    (∃ retention, mapping.retentionWithExpiry = .ok retention) ↔
      (mapping.retention.getD default ≠ .discard → ∀ e, mapping.expiry = some e → 0 ≤ e.val) := by
  rw [← expiryAsDuration_isOk]
  cases retention : mapping.retention.getD default
  · simp [retentionWithExpiry_discard retention]
  all_goals
    simp only [retentionWithExpiry, retention, ne_eq, reduceCtorEq, not_false_eq_true, forall_const]
    cases mapping.expiryAsDuration <;> simp [Except.map]

theorem expiryAsDuration_meaning {expiry : Option Duration} (decoded : mapping.expiryAsDuration = .ok expiry) :
    (expiry = none ↔ mapping.expiry = none ∨ ∃ e, mapping.expiry = some e ∧ e.val = 0) ∧
    ∀ e, mapping.expiry = some e → 0 < e.val → expiry = some (Duration.fromSecs (UInt64.ofNat e.val.toNat)) := by
  refine ⟨⟨fun absent => expiryAsDuration_eq_ok_none_iff.mp (absent ▸ decoded), fun never => ?_⟩,
    fun e present positive => ?_⟩
  · have := expiryAsDuration_eq_ok_none_iff.mpr never
    rw [decoded] at this
    exact Except.ok.inj this
  · have := expiryAsDuration_of_pos present positive
    rw [decoded] at this
    exact Except.ok.inj this

theorem retentionWithExpiry_meaning {retention : InterfaceRetention}
    (decoded : mapping.retentionWithExpiry = .ok retention) :
    retention.toSchema = mapping.retention.getD default ∧
    (mapping.retention.getD default = .discard → retention = .discard) ∧
    (mapping.retention.getD default ≠ .discard →
      (retention.asExpiry = none ↔ mapping.expiry = none ∨ ∃ e, mapping.expiry = some e ∧ e.val = 0) ∧
      ∀ e, mapping.expiry = some e → 0 < e.val →
        retention.asExpiry = some (Duration.fromSecs (UInt64.ofNat e.val.toNat))) := by
  cases kind : mapping.retention.getD default
  · rw [retentionWithExpiry_discard kind] at decoded
    cases decoded
    simp [InterfaceRetention.toSchema]
  all_goals
    simp only [retentionWithExpiry, kind] at decoded
    cases expiry : mapping.expiryAsDuration <;> rw [expiry] at decoded <;> cases decoded
    simpa [InterfaceRetention.toSchema, InterfaceRetention.asExpiry] using expiryAsDuration_meaning expiry

theorem retentionWithExpiry_encode {retention : InterfaceRetention}
    (representable : retention.Representable)
    (encodedRetention : mapping.retention = some retention.toSchema)
    (encodedExpiry : mapping.expiry = retention.asExpirySeconds) :
    mapping.retentionWithExpiry = .ok retention := by
  rcases retention with _ | expiry | expiry
  · exact retentionWithExpiry_discard (by simp [encodedRetention, InterfaceRetention.toSchema])
  all_goals
    simp only [retentionWithExpiry, encodedRetention, InterfaceRetention.toSchema, Option.getD_some]
    rw [expiryAsDuration_encode representable encodedExpiry]
    rfl

theorem retentionWithExpiry_representable {retention : InterfaceRetention}
    (decoded : mapping.retentionWithExpiry = .ok retention) : retention.Representable := by
  unfold retentionWithExpiry at decoded
  split at decoded
  · cases decoded
    exact fun _ absent => by cases absent
  all_goals
    cases expiry : mapping.expiryAsDuration <;> rw [expiry] at decoded <;> cases decoded
    exact expiryAsDuration_wholeSecs expiry

theorem databaseRetentionTtlAsDuration_eq_ok_some_iff {ttl : Duration} :
    mapping.databaseRetentionTtlAsDuration = .ok (some ttl) ↔
      ∃ t secs, mapping.databaseRetentionTtl = some t ∧ t.toU64? = some secs ∧ 60 ≤ secs.toNat ∧
        ttl = Duration.fromSecs secs := by
  unfold databaseRetentionTtlAsDuration
  rcases mapping.databaseRetentionTtl with _ | t
  · simp
  · cases converted : t.toU64? with
    | none => simp [converted]
    | some secs =>
        have lowIff : secs < 60 ↔ secs.toNat < 60 := UInt64.lt_iff_toNat
        simp only [converted, lowIff]
        split_ifs with low
        · simp [converted]
          omega
        · simp [converted, eq_comm]
          omega

theorem databaseRetentionTtlAsDuration_of_ge {t : I64} (present : mapping.databaseRetentionTtl = some t)
    (high : 60 ≤ t.val) :
    mapping.databaseRetentionTtlAsDuration = .ok (some (Duration.fromSecs (UInt64.ofNat t.val.toNat))) := by
  refine databaseRetentionTtlAsDuration_eq_ok_some_iff.mpr
    ⟨t, _, present, Signed.toU64?_of_nonneg (by omega), ?_, rfl⟩
  have := (Signed.toU64?_eq_some (@Signed.toU64?_of_nonneg t (by omega))).2
  omega

theorem databaseRetentionWithTtl_noTtl (noTtl : mapping.databaseRetentionPolicy.getD default = .noTtl) :
    mapping.databaseRetentionWithTtl = .ok .noTtl := by
  simp [databaseRetentionWithTtl, noTtl]

theorem databaseRetentionWithTtl_eq_ok_noTtl_iff :
    mapping.databaseRetentionWithTtl = .ok .noTtl ↔
      mapping.databaseRetentionPolicy.getD default = .noTtl := by
  unfold databaseRetentionWithTtl
  cases mapping.databaseRetentionPolicy.getD default
  · simp
  · simp only [Except.map]
    split <;> simp

theorem databaseRetentionWithTtl_eq_ok_useTtl_iff {ttl : Duration} :
    mapping.databaseRetentionWithTtl = .ok (.useTtl ttl) ↔
      mapping.databaseRetentionPolicy.getD default = .useTtl ∧
        mapping.databaseRetentionTtlAsDuration = .ok (some ttl) := by
  unfold databaseRetentionWithTtl
  split
  · simp_all
  · rename_i useTtl
    simp only [useTtl, true_and]
    rcases mapping.databaseRetentionTtlAsDuration with _ | _ | ttl <;>
      simp [Except.bind, Except.map]

theorem databaseRetentionTtlAsDuration_ok_some_iff_ge :
    (∃ ttl, mapping.databaseRetentionTtlAsDuration = .ok (some ttl)) ↔
      ∃ t, mapping.databaseRetentionTtl = some t ∧ 60 ≤ t.val := by
  simp only [databaseRetentionTtlAsDuration_eq_ok_some_iff]
  constructor
  · rintro ⟨-, t, secs, present, converted, high, -⟩
    have := (Signed.toU64?_eq_some converted).2
    exact ⟨t, present, by omega⟩
  · rintro ⟨t, present, high⟩
    cases converted : t.toU64? with
    | none => exact absurd (Signed.toU64?_eq_none.mp converted) (by omega)
    | some secs =>
        have := (Signed.toU64?_eq_some converted).2
        exact ⟨_, t, secs, present, converted, by omega, rfl⟩

theorem databaseRetentionWithTtl_isOk :
    (∃ retention, mapping.databaseRetentionWithTtl = .ok retention) ↔
      (mapping.databaseRetentionPolicy.getD default = .useTtl →
        ∃ t, mapping.databaseRetentionTtl = some t ∧ 60 ≤ t.val) := by
  rw [← databaseRetentionTtlAsDuration_ok_some_iff_ge]
  cases policy : mapping.databaseRetentionPolicy.getD default
  · simp [databaseRetentionWithTtl_noTtl policy]
  · simp only [forall_const]
    constructor
    · rintro ⟨retention, decoded⟩
      unfold databaseRetentionWithTtl at decoded
      rw [policy] at decoded
      rcases converted : mapping.databaseRetentionTtlAsDuration with _ | _ | ttl <;>
        rw [converted] at decoded <;> simp [Except.bind, Except.map] at decoded
      exact ⟨ttl, rfl⟩
    · rintro ⟨ttl, present⟩
      exact ⟨_, databaseRetentionWithTtl_eq_ok_useTtl_iff.mpr ⟨policy, present⟩⟩

theorem databaseRetentionWithTtl_meaning {retention : InterfaceDatabaseRetention}
    (decoded : mapping.databaseRetentionWithTtl = .ok retention) :
    (mapping.databaseRetentionPolicy.getD default = .useTtl → ∀ t, mapping.databaseRetentionTtl = some t →
      retention = .useTtl (Duration.fromSecs (UInt64.ofNat t.val.toNat))) ∧
    (mapping.databaseRetentionPolicy.getD default = .noTtl → retention = .noTtl) := by
  cases policy : mapping.databaseRetentionPolicy.getD default
  · rw [databaseRetentionWithTtl_noTtl policy] at decoded
    cases decoded
    simp
  · simp only [forall_const, reduceCtorEq, false_implies, and_true]
    intro t present
    rcases retention with _ | ttl
    · unfold databaseRetentionWithTtl at decoded
      rw [policy] at decoded
      rcases converted : mapping.databaseRetentionTtlAsDuration with _ | _ | ttl <;>
        rw [converted] at decoded <;> simp [Except.bind, Except.map] at decoded
    · obtain ⟨-, converted⟩ := databaseRetentionWithTtl_eq_ok_useTtl_iff.mp decoded
      obtain ⟨t', secs, present', toU64, -, rfl⟩ := databaseRetentionTtlAsDuration_eq_ok_some_iff.mp converted
      rw [present] at present'
      cases present'
      have nonnegative := (Signed.toU64?_eq_some toU64).1
      rw [Signed.toU64?_of_nonneg nonnegative] at toU64
      cases toU64
      rfl

theorem databaseRetentionWithTtl_encode {retention : InterfaceDatabaseRetention}
    (representable : retention.Representable)
    (encodedPolicy : mapping.databaseRetentionPolicy = some retention.toSchema)
    (encodedTtl : mapping.databaseRetentionTtl = retention.asTtlSecs) :
    mapping.databaseRetentionWithTtl = .ok retention := by
  rcases retention with _ | ttl
  · exact databaseRetentionWithTtl_noTtl (by simp [encodedPolicy, InterfaceDatabaseRetention.toSchema])
  · obtain ⟨nanos, least, small⟩ := representable
    obtain ⟨t, converted, back, -⟩ := Signed.ofU64?_of_lt small
    refine databaseRetentionWithTtl_eq_ok_useTtl_iff.mpr ⟨by simp [encodedPolicy,
      InterfaceDatabaseRetention.toSchema], databaseRetentionTtlAsDuration_eq_ok_some_iff.mpr
      ⟨t, ttl.secs, ?_, back, least, (Duration.fromSecs_secs nanos).symm⟩⟩
    simp [encodedTtl, InterfaceDatabaseRetention.asTtlSecs, Duration.asSecs, converted]

theorem databaseRetentionWithTtl_representable {retention : InterfaceDatabaseRetention}
    (decoded : mapping.databaseRetentionWithTtl = .ok retention) : retention.Representable := by
  rcases retention with _ | ttl
  · trivial
  · obtain ⟨-, present⟩ := databaseRetentionWithTtl_eq_ok_useTtl_iff.mp decoded
    obtain ⟨t, secs, -, converted, high, rfl⟩ :=
      databaseRetentionTtlAsDuration_eq_ok_some_iff.mp present
    have ⟨_, same⟩ := Signed.toU64?_eq_some converted
    have := t.lt
    exact ⟨rfl, high, show secs.toNat < 2 ^ 63 by omega⟩

theorem retentionWithExpiry_eq_error_iff {error : SchemaError} :
    mapping.retentionWithExpiry = .error error ↔
      mapping.retention.getD default ≠ .discard ∧
        ∃ e, mapping.expiry = some e ∧ e.val < 0 ∧ error = .negativeExpiry e := by
  rw [← expiryAsDuration_eq_error_iff]
  unfold retentionWithExpiry
  cases mapping.retention.getD default <;>
    cases mapping.expiryAsDuration <;> simp [Except.map]

theorem databaseRetentionWithTtl_eq_error_iff {error : SchemaError} :
    mapping.databaseRetentionWithTtl = .error error ↔
      mapping.databaseRetentionPolicy.getD default = .useTtl ∧
        (mapping.databaseRetentionTtl = none ∧ error = .missingDatabaseRetentionTtl ∨
          ∃ t, mapping.databaseRetentionTtl = some t ∧
            (t.val < 0 ∧ error = .negativeDatabaseRetentionTtl t ∨
              0 ≤ t.val ∧ t.val < 60 ∧
                error = .databaseRetentionTtlTooLow (UInt64.ofNat t.val.toNat))) := by
  unfold databaseRetentionWithTtl
  cases mapping.databaseRetentionPolicy.getD default
  · simp
  · unfold databaseRetentionTtlAsDuration
    rcases mapping.databaseRetentionTtl with _ | t
    · simp [Except.bind, Except.map, eq_comm]
    · by_cases negative : t.val < 0
      · simp [Signed.toU64?_eq_none.mpr negative, negative, Except.bind, Except.map, eq_comm]
      · have converted := @Signed.toU64?_of_nonneg t (by omega)
        have secs := (Signed.toU64?_eq_some converted).2
        have low : UInt64.ofNat t.val.toNat < 60 ↔ t.val < 60 := by
          rw [UInt64.lt_iff_toNat, show (60 : UInt64).toNat = 60 from rfl]
          omega
        simp only [converted, low]
        split_ifs with under <;> simp [negative, under, Except.bind, Except.map, eq_comm]
        omega

end Mapping

@[simp] theorem getD_elideDefault [Inhabited α] [DecidableEq α] (value : Option α) :
    (elideDefault value).getD default = value.getD default := by
  rcases value with _ | value
  · rfl
  · by_cases isDefault : value = default <;> simp [elideDefault, isNoneOrDefault, isDefault]

theorem filter_elideDefault (value : Option I64) :
    (elideDefault value).filter (fun e => e.val ≠ 0) = value.filter fun e => e.val ≠ 0 := by
  rcases value with _ | value
  · rfl
  · by_cases zero : value.val = 0 <;>
      simp [elideDefault, isNoneOrDefault, Signed.eq_default_iff, zero, Option.filter]

theorem Mapping.elide_retentionWithExpiry (mapping : Mapping) :
    mapping.elide.retentionWithExpiry = mapping.retentionWithExpiry := by
  simp only [Mapping.retentionWithExpiry, Mapping.expiryAsDuration, Mapping.elide, getD_elideDefault,
    filter_elideDefault]

/-- Elision turns a ttl of zero into a missing ttl: under `use_ttl` both are errors, and no
successful decoding changes. -/
theorem Mapping.elide_databaseRetentionWithTtl (mapping : Mapping) (retention : InterfaceDatabaseRetention) :
    mapping.elide.databaseRetentionWithTtl = .ok retention ↔
      mapping.databaseRetentionWithTtl = .ok retention := by
  rcases retention with _ | ttl
  · rw [Mapping.databaseRetentionWithTtl_eq_ok_noTtl_iff, Mapping.databaseRetentionWithTtl_eq_ok_noTtl_iff]
    simp only [Mapping.elide, getD_elideDefault]
  · rw [Mapping.databaseRetentionWithTtl_eq_ok_useTtl_iff, Mapping.databaseRetentionWithTtl_eq_ok_useTtl_iff,
      Mapping.databaseRetentionTtlAsDuration_eq_ok_some_iff, Mapping.databaseRetentionTtlAsDuration_eq_ok_some_iff]
    simp only [Mapping.elide, getD_elideDefault]
    constructor
    · rintro ⟨policy, t, secs, present, converted, high, rfl⟩
      refine ⟨policy, t, secs, ?_, converted, high, rfl⟩
      unfold elideDefault at present
      split at present <;> simp_all
    · rintro ⟨policy, t, secs, present, converted, high, rfl⟩
      refine ⟨policy, t, secs, ?_, converted, high, rfl⟩
      have nonzero : t ≠ default := by
        rintro rfl
        simp [Signed.toU64?] at converted
        subst converted
        simp at high
      simp [elideDefault, isNoneOrDefault, present, nonzero]

end AstarteDeviceSdk.Schema
