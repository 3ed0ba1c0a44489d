import AstarteDeviceSdk.Schema
import AstarteDeviceSdk.Endpoint

/-! Mappings of datastream interfaces (`astarte-interfaces/src/mapping/datastream`): decoding a
schema `Mapping` into an individual or object mapping, and encoding an individual mapping back. -/

namespace AstarteDeviceSdk.DatastreamMapping

open Primitives Schema

/-- Modelled from the spec: the root error of `astarte-interfaces` (`crate::error::Error`, not
under src/), with the two variants `try_from` converts into through `?`. -/
inductive Error
  | endpoint (error : EndpointError)
  | schema (error : SchemaError)
  deriving DecidableEq, Repr

inductive MappingError
  | empty
  | tooMany (count : Nat)
  | duplicated (endpoint : String)
  | endpoint (error : EndpointError)
  | tooShortForObject (endpoint : String)
  deriving DecidableEq, Repr

/-- With the `doc-fields` feature, which keeps `description` and `doc`. -/
structure DatastreamIndividualMapping where
  endpoint : Endpoint
  mappingType : MappingType
  reliability : Reliability
  retention : InterfaceRetention
  databaseRetention : InterfaceDatabaseRetention
  explicitTimestamp : Bool
  description : Option String
  doc : Option String
  deriving DecidableEq, Repr

namespace DatastreamIndividualMapping

/-- `TryFrom<Mapping<T>>`; a present `allow_unset` is only logged. -/
def tryFrom (value : Mapping) : Except Error DatastreamIndividualMapping := do
  let endpoint ← (Endpoint.tryFrom value.endpoint).mapError .endpoint
  let retention ← value.retentionWithExpiry.mapError .schema
  let databaseRetention ← value.databaseRetentionWithTtl.mapError .schema
  pure {
    endpoint
    reliability := value.reliability.getD default
    retention
    databaseRetention
    explicitTimestamp := value.explicitTimestamp.getD default
    mappingType := value.mappingType
    description := value.description
    doc := value.doc }

/-- `From<&DatastreamIndividualMapping> for Mapping<Cow<str>>`. -/
def toMapping (value : DatastreamIndividualMapping) : Mapping where
  endpoint := value.endpoint.toString
  mappingType := value.mappingType
  reliability := some value.reliability
  explicitTimestamp := some value.explicitTimestamp
  retention := some value.retention.toSchema
  expiry := value.retention.asExpirySeconds
  databaseRetentionPolicy := some value.databaseRetention.toSchema
  databaseRetentionTtl := value.databaseRetention.asTtlSecs
  allowUnset := none
  description := value.description
  doc := value.doc

theorem tryFrom_eq_ok {value : Mapping} {mapping : DatastreamIndividualMapping} :
    tryFrom value = .ok mapping ↔
      ∃ endpoint retention databaseRetention,
        Endpoint.tryFrom value.endpoint = .ok endpoint ∧
        value.retentionWithExpiry = .ok retention ∧
        value.databaseRetentionWithTtl = .ok databaseRetention ∧
        mapping = { endpoint, retention, databaseRetention
                    reliability := value.reliability.getD default
                    explicitTimestamp := value.explicitTimestamp.getD default
                    mappingType := value.mappingType
                    description := value.description
                    doc := value.doc } := by
  unfold tryFrom
  rcases Endpoint.tryFrom value.endpoint with _ | endpoint <;>
    rcases value.retentionWithExpiry with _ | retention <;>
    rcases value.databaseRetentionWithTtl with _ | databaseRetention <;>
    simp [Except.mapError, bind, Except.bind, pure, Except.pure, eq_comm]

theorem isOk_tryFrom {value : Mapping} :
    (∃ mapping, tryFrom value = .ok mapping) ↔
      (∃ endpoint, Endpoint.tryFrom value.endpoint = .ok endpoint) ∧
      (∃ retention, value.retentionWithExpiry = .ok retention) ∧
      (∃ databaseRetention, value.databaseRetentionWithTtl = .ok databaseRetention) := by
  simp only [tryFrom_eq_ok]
  constructor
  · rintro ⟨-, endpoint, retention, databaseRetention, parsed, decoded, decodedTtl, -⟩
    exact ⟨⟨_, parsed⟩, ⟨_, decoded⟩, ⟨_, decodedTtl⟩⟩
  · rintro ⟨⟨endpoint, parsed⟩, ⟨retention, decoded⟩, ⟨databaseRetention, decodedTtl⟩⟩
    exact ⟨_, endpoint, retention, databaseRetention, parsed, decoded, decodedTtl, rfl⟩

def Representable (mapping : DatastreamIndividualMapping) : Prop :=
  mapping.retention.Representable ∧ mapping.databaseRetention.Representable

theorem tryFrom_representable {value : Mapping} {mapping : DatastreamIndividualMapping}
    (decoded : tryFrom value = .ok mapping) : mapping.Representable := by
  obtain ⟨_, _, _, -, decodedRetention, decodedTtl, rfl⟩ := tryFrom_eq_ok.mp decoded
  exact ⟨Mapping.retentionWithExpiry_representable decodedRetention,
    Mapping.databaseRetentionWithTtl_representable decodedTtl⟩

theorem tryFrom_toMapping_of_representable {mapping : DatastreamIndividualMapping}
    (representable : mapping.Representable) : tryFrom mapping.toMapping = .ok mapping :=
  tryFrom_eq_ok.mpr ⟨mapping.endpoint, mapping.retention, mapping.databaseRetention,
    Endpoint.tryFrom_toString _, Mapping.retentionWithExpiry_encode representable.1 rfl rfl,
    Mapping.databaseRetentionWithTtl_encode representable.2 rfl rfl, rfl⟩

/-- Decoding undoes encoding on every decoded mapping; and an individual mapping comes back from
its schema form exactly when its expiry and ttl are whole seconds that the schema's `i64` fields
hold: any retention and reliability, an expiry from 1 s and a ttl from 60 s, up to `i64::MAX` s. -/
theorem tryFrom_toMapping :
    (∀ (value : Mapping) (mapping : DatastreamIndividualMapping),
      tryFrom value = .ok mapping → tryFrom mapping.toMapping = .ok mapping) ∧
    ∀ mapping : DatastreamIndividualMapping,
      tryFrom mapping.toMapping = .ok mapping ↔ mapping.Representable :=
  ⟨fun _ _ decoded => tryFrom_toMapping_of_representable (tryFrom_representable decoded),
    fun _ => ⟨tryFrom_representable, tryFrom_toMapping_of_representable⟩⟩

def volatileSensor : Mapping :=
  { endpoint := "/sensor/%{id}/value", mappingType := .double, reliability := some .guaranteed,
    explicitTimestamp := some true, retention := some .volatile,
    expiry := some ⟨3600, by decide, by decide⟩, databaseRetentionPolicy := some .useTtl,
    databaseRetentionTtl := some ⟨60, by decide, by decide⟩, allowUnset := none,
    description := some "", doc := none }

def volatileSensorMapping : DatastreamIndividualMapping where
  endpoint := ⟨[.literal "sensor", .parameter "id", .literal "value"], List.cons_ne_nil _ _, by
    intro level member
    simp only [List.mem_cons, List.mem_singleton, List.not_mem_nil, or_false] at member
    rcases member with rfl | rfl | rfl <;> (unfold Level.Valid; decide)⟩
  mappingType := .double
  reliability := .guaranteed
  retention := .volatile (some (Duration.fromSecs 3600))
  databaseRetention := .useTtl (Duration.fromSecs 60)
  explicitTimestamp := true
  description := some ""
  doc := none

theorem volatileSensor_roundtrip :
    tryFrom volatileSensor = .ok volatileSensorMapping ∧
      tryFrom volatileSensorMapping.toMapping = .ok volatileSensorMapping :=
  ⟨by rfl, (tryFrom_toMapping.2 volatileSensorMapping).mpr
    ⟨fun _ found => by cases found; exact ⟨rfl, by decide, by decide⟩, ⟨rfl, by decide, by decide⟩⟩⟩

theorem tryFrom_elide (value : Mapping) :
    ((∃ mapping, tryFrom value.elide = .ok mapping) ↔ ∃ mapping, tryFrom value = .ok mapping) ∧
    ∀ mapping elided, tryFrom value = .ok mapping → tryFrom value.elide = .ok elided →
      { elided with description := none, doc := none } =
        { mapping with description := none, doc := none } := by
  refine ⟨?_, fun mapping elided decoded decodedElided => ?_⟩
  · rw [isOk_tryFrom, isOk_tryFrom, value.elide_retentionWithExpiry,
      exists_congr value.elide_databaseRetentionWithTtl]
    rfl
  · obtain ⟨endpoint, retention, databaseRetention, parsed, decodedRetention, decodedTtl, rfl⟩ :=
      tryFrom_eq_ok.mp decoded
    obtain ⟨endpoint', retention', databaseRetention', parsed', decodedRetention', decodedTtl', rfl⟩ :=
      tryFrom_eq_ok.mp decodedElided
    have sameEndpoint : endpoint' = endpoint := Except.ok.inj (parsed'.symm.trans parsed)
    have sameRetention : retention' = retention := by
      rw [value.elide_retentionWithExpiry, decodedRetention] at decodedRetention'
      exact (Except.ok.inj decodedRetention').symm
    have sameDatabaseRetention : databaseRetention' = databaseRetention := by
      have decodedBoth := (value.elide_databaseRetentionWithTtl _).mp decodedTtl'
      rw [decodedTtl] at decodedBoth
      exact (Except.ok.inj decodedBoth).symm
    subst sameEndpoint sameRetention sameDatabaseRetention
    simp only [Mapping.elide, getD_elideDefault]

/-- A negative expiry under the default discard retention is accepted: the discard branch of
`retention_with_expiry` never reads the expiry. -/
theorem tryFrom_discard_negative_expiry :
    ¬ ((∃ mapping, tryFrom
          { endpoint := "/a", mappingType := .integer, reliability := none, explicitTimestamp := none,
            retention := none, expiry := some ⟨-1, by decide, by decide⟩,
            databaseRetentionPolicy := none, databaseRetentionTtl := none, allowUnset := none,
            description := none, doc := none } = .ok mapping) ↔
        (∀ e : I64, some ⟨-1, by decide, by decide⟩ = some e → 0 ≤ e.val) ∧
        ((none : Option DatabaseRetentionPolicy).getD default = .useTtl →
          ∃ t : I64, (none : Option I64) = some t ∧ 60 ≤ t.val)) := by
  intro claimed
  have nonnegative := (claimed.mp ⟨_, rfl⟩).1 _ rfl
  exact absurd nonnegative (by decide)

theorem tryFrom_retention (value : Mapping) :
    ((∃ mapping, tryFrom value = .ok mapping) ↔
      (∃ endpoint, Endpoint.tryFrom value.endpoint = .ok endpoint) ∧
      (value.retention.getD default ≠ .discard → ∀ e, value.expiry = some e → 0 ≤ e.val) ∧
      (value.databaseRetentionPolicy.getD default = .useTtl →
        ∃ t, value.databaseRetentionTtl = some t ∧ 60 ≤ t.val)) ∧
    ∀ mapping, tryFrom value = .ok mapping →
      mapping.retention.toSchema = value.retention.getD default ∧
      (value.retention.getD default = .discard → mapping.retention = .discard) ∧
      (value.retention.getD default ≠ .discard →
        (mapping.retention.asExpiry = none ↔
          value.expiry = none ∨ ∃ e, value.expiry = some e ∧ e.val = 0) ∧
        ∀ e, value.expiry = some e → 0 < e.val →
          mapping.retention.asExpiry = some (Duration.fromSecs (UInt64.ofNat e.val.toNat))) ∧
      (value.databaseRetentionPolicy.getD default = .useTtl →
        ∀ t, value.databaseRetentionTtl = some t →
          mapping.databaseRetention = .useTtl (Duration.fromSecs (UInt64.ofNat t.val.toNat))) ∧
      (value.databaseRetentionPolicy.getD default = .noTtl → mapping.databaseRetention = .noTtl) ∧
      mapping.reliability = value.reliability.getD .unreliable ∧
      mapping.explicitTimestamp = value.explicitTimestamp.getD false := by
  refine ⟨by rw [isOk_tryFrom, Mapping.retentionWithExpiry_isOk, Mapping.databaseRetentionWithTtl_isOk],
    fun mapping decoded => ?_⟩
  obtain ⟨endpoint, retention, databaseRetention, -, decodedRetention, decodedTtl, rfl⟩ :=
    tryFrom_eq_ok.mp decoded
  exact ⟨(Mapping.retentionWithExpiry_meaning decodedRetention).1,
    (Mapping.retentionWithExpiry_meaning decodedRetention).2.1,
    (Mapping.retentionWithExpiry_meaning decodedRetention).2.2,
    (Mapping.databaseRetentionWithTtl_meaning decodedTtl).1,
    (Mapping.databaseRetentionWithTtl_meaning decodedTtl).2, rfl, rfl⟩

end DatastreamIndividualMapping

/-- The `thiserror` messages of `MappingError`, with the spec's 1024 for
`MAX_INTERFACE_MAPPINGS`. -/
def MappingError.message : MappingError → String
  | .empty => "an interface must have at lease one mapping"
  | .tooMany count =>
    "too many mappings " ++ Nat.repr count ++ ", interfaces can have a max of 1024 mappings"
  | .duplicated text => "the mappings has a duplicated endpoint " ++ text
  | .endpoint _ => "couldn't parse the mapping's endpoint"
  | .tooShortForObject text => "object endpoint should have at least 2 levels: '" ++ text ++ "'"

/-- With the `doc-fields` feature. -/
structure DatastreamObjectMapping where
  endpoint : Endpoint
  mappingType : MappingType
  description : Option String
  doc : Option String
  deriving DecidableEq, Repr

namespace DatastreamObjectMapping

/-- `TryFrom<Mapping<T>>`. -/
def tryFrom (value : Mapping) : Except MappingError DatastreamObjectMapping := do
  let endpoint ← (Endpoint.tryFrom value.endpoint).mapError .endpoint
  if endpoint.len < 2 then
    throw (.tooShortForObject endpoint.toString)
  pure ⟨endpoint, value.mappingType, value.description, value.doc⟩

theorem tryFrom_levels (value : Mapping) :
    (∀ mapping, tryFrom value = .ok mapping ↔
      Endpoint.tryFrom value.endpoint = .ok mapping.endpoint ∧ 2 ≤ mapping.endpoint.len ∧
        mapping.mappingType = value.mappingType ∧ mapping.description = value.description ∧
        mapping.doc = value.doc) ∧
    ∀ endpoint, Endpoint.tryFrom value.endpoint = .ok endpoint → endpoint.len < 2 →
      tryFrom value = .error (.tooShortForObject value.endpoint) := by
  unfold tryFrom
  rcases parsed : Endpoint.tryFrom value.endpoint with e | endpoint
  · simp [Except.mapError, bind, Except.bind]
  · by_cases short : endpoint.len < 2
    · simp [Except.mapError, bind, Except.bind, short, Endpoint.toString_tryFrom parsed]
      rintro mapping rfl long
      omega
    · simp only [Except.mapError, bind, Except.bind, short, if_false, pure, Except.pure,
        Except.ok.injEq]
      refine ⟨fun mapping => ⟨?_, ?_⟩, fun _ same shorter => absurd (same ▸ shorter) short⟩
      · rintro rfl
        exact ⟨rfl, Nat.le_of_not_lt short, rfl, rfl, rfl⟩
      · rintro ⟨rfl, -, kind, description, doc⟩
        rw [← kind, ← description, ← doc]

end DatastreamObjectMapping

end AstarteDeviceSdk.DatastreamMapping
