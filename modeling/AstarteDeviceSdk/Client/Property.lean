import AstarteDeviceSdk.AstarteData

/-! The property engine of the device client (`src/client/property.rs`): `send_property`, which
skips a value equal to the stored one, `try_load_prop`, and `unset_prop`.

The client is generic over its store (`PropertyStore`) and the sender of its connection
(`Publish`). Both stay abstract: state-passing calls that may fail. The results below hold for
every store that keeps the store contract (`PropertyStore.Lawful`) and for every transport. The
interface registry is left out, so calls take the `MappingRef` that `property_mapping` resolved.
`World.published` records the frames the transport accepted: the broker's view of the run.

Modelled from the spec, as they are not under src/: the store key `PropertyMapping`, `StoredProp`,
`ValidatedProperty` and `ValidatedUnset` with their validators (§4.5), the validation, store and
transport errors, and the `PropertyStore` and `Publish` traits. -/

namespace AstarteDeviceSdk.Client

open Primitives Schema Types

/-- Modelled from the spec: what the client reads of a resolved property mapping
(`MappingRef<'_, PropertyRef<'_>>`). -/
structure MappingRef where
  interfaceName : String
  versionMajor : I32
  ownership : Ownership
  mappingType : MappingType
  allowUnset : Bool
  path : String
  deriving DecidableEq, Repr

structure PropertyMapping where
  interfaceName : String
  path : String
  deriving DecidableEq, Repr

def PropertyMapping.withPropertyPath (mapping : MappingRef) (path : String) : PropertyMapping :=
  ⟨mapping.interfaceName, path⟩

def MappingRef.key (mapping : MappingRef) : PropertyMapping :=
  ⟨mapping.interfaceName, mapping.path⟩


structure StoredProp where
  interface : String
  path : String
  value : AstarteData
  interfaceMajor : I32
  ownership : Ownership
  deriving DecidableEq, Repr

structure ValidatedProperty where
  interface : String
  path : String
  data : AstarteData
  deriving DecidableEq, Repr

structure ValidatedUnset where
  interface : String
  path : String
  deriving DecidableEq, Repr

def ValidatedUnset.toPropertyMapping (validated : ValidatedUnset) : PropertyMapping :=
  ⟨validated.interface, validated.path⟩

inductive UserValidationError
  | ownership (interface path : String)
  | mappingType (expected got : MappingType)
  | unsetNotAllowed (interface path : String)
  deriving DecidableEq, Repr

/-- Modelled from the spec (§4.5): a device publishes on device-owned interfaces only, and the
value's kind is the mapping's type. -/
def ValidatedProperty.validate (mapping : MappingRef) (data : AstarteData) :
    Except UserValidationError ValidatedProperty :=
  if !mapping.ownership.isDevice then .error (.ownership mapping.interfaceName mapping.path)
  else if data.mappingType ≠ mapping.mappingType then
    .error (.mappingType mapping.mappingType data.mappingType)
  else .ok ⟨mapping.interfaceName, mapping.path, data⟩

/-- Modelled from the spec: an unset is sent on a device-owned mapping that allows it. -/
def ValidatedUnset.validate (mapping : MappingRef) : Except UserValidationError ValidatedUnset :=
  if !mapping.ownership.isDevice then .error (.ownership mapping.interfaceName mapping.path)
  else if !mapping.allowUnset then .error (.unsetNotAllowed mapping.interfaceName mapping.path)
  else .ok ⟨mapping.interfaceName, mapping.path⟩

inductive StoreError
  | backend (reason : String)
  deriving DecidableEq, Repr

inductive TransportError
  | connection (reason : String)
  deriving DecidableEq, Repr

inductive Error
  | validation (error : UserValidationError)
  | store (error : StoreError)
  | transport (error : TransportError)
  deriving DecidableEq, Repr

def Error.isIo : Error → Bool
  | .validation _ => false
  | .store _ | .transport _ => true

structure PropertyStore (σ : Type) where
  storeProp : StoredProp → EStateM StoreError σ Unit
  loadProp : PropertyMapping → I32 → EStateM StoreError σ (Option AstarteData)
  unsetProp : PropertyMapping → EStateM StoreError σ Unit
  deleteProp : PropertyMapping → EStateM StoreError σ Unit

structure Publish (τ : Type) where
  sendProperty : ValidatedProperty → EStateM TransportError τ Unit
  unset : ValidatedUnset → EStateM TransportError τ Unit

inductive Frame
  | property (interface path : String) (data : AstarteData)
  | unset (interface path : String)
  deriving DecidableEq, Repr

def Frame.value : Frame → Option AstarteData
  | .property _ _ data => some data
  | .unset _ _ => none

structure World (σ τ : Type) where
  store : σ
  sender : τ
  connected : Bool
  published : List Frame

abbrev ClientM (σ τ : Type) := EStateM Error (World σ τ)

section Lift

variable {σ τ α : Type}

/-- The `?` on a validation result. -/
def ofValidation (result : Except UserValidationError α) : ClientM σ τ α := fun world =>
  match result with
  | .ok value => .ok value world
  | .error e => .error (.validation e) world

/-- A store call; its failure becomes `Error::Store`. -/
def onStore (call : EStateM StoreError σ α) : ClientM σ τ α := fun world =>
  match call world.store with
  | .ok value store => .ok value { world with store }
  | .error e store => .error (.store e) { world with store }

/-- A transport call; once the transport accepts it, the broker has received `frame`. -/
def onSender (call : EStateM TransportError τ Unit) (frame : Frame) : ClientM σ τ Unit :=
  fun world =>
    match call world.sender with
    | .ok () sender => .ok () { world with sender, published := world.published ++ [frame] }
    | .error e sender => .error (.transport e) { world with sender }

end Lift

section Client

variable {σ τ : Type} (S : PropertyStore σ) (P : Publish τ)

/-- `DeviceClient::try_load_prop`: the stored value, deleted and dropped when its kind is not the
mapping's type. -/
def tryLoadProp (mapping : MappingRef) (path : String) : ClientM σ τ (Option AstarteData) := do
  let interfaceData := PropertyMapping.withPropertyPath mapping path
  let value ← onStore (S.loadProp interfaceData mapping.versionMajor)
  match value with
  | some value =>
    if value.mappingType ≠ mapping.mappingType then
      onStore (S.deleteProp interfaceData)
      pure none
    else pure (some value)
  | none => pure none

/-- `DeviceClient::is_prop_stored`. -/
def isPropStored (mapping : MappingRef) (new : ValidatedProperty) : ClientM σ τ Bool := do
  let stored ← tryLoadProp S mapping mapping.path
  pure (stored.any (· == new.data))

/-- `DeviceClient::send_property`. -/
def sendProperty (mapping : MappingRef) (data : AstarteData) : ClientM σ τ Unit := do
  let validated ← ofValidation (ValidatedProperty.validate mapping data)
  if ← isPropStored S mapping validated then
    pure ()
  else
    let prop : StoredProp := ⟨validated.interface, validated.path, validated.data,
      mapping.versionMajor, .device⟩
    onStore (S.storeProp prop)
    if (← get).connected then
      onSender (P.sendProperty validated)
        (.property validated.interface validated.path validated.data)

/-- `DeviceClient::unset_prop`. -/
def unsetProp (mapping : MappingRef) : ClientM σ τ Unit := do
  let validated ← ofValidation (ValidatedUnset.validate mapping)
  let propertyMapping := validated.toPropertyMapping
  onStore (S.unsetProp propertyMapping)
  if (← get).connected then
    onSender (P.unset validated) (.unset validated.interface validated.path)
    onStore (S.deleteProp propertyMapping)

end Client

section Ensures

variable {σ τ α β : Type} {world : World σ τ} {fail : Error → World σ τ → Prop}

/-- From `world`, the call `x` either returns some `a` in a world `world'` with `post a world'`,
or fails with an error `e` in a world `world'` with `fail e world'`. -/
def Ensures (x : ClientM σ τ α) (world : World σ τ) (post : α → World σ τ → Prop)
    (fail : Error → World σ τ → Prop) : Prop :=
  match x world with
  | .ok a world' => post a world'
  | .error e world' => fail e world'

theorem Ensures.mono {x : ClientM σ τ α} {post post' : α → World σ τ → Prop}
    {fail' : Error → World σ τ → Prop} (ensures : Ensures x world post fail)
    (weaker : ∀ a world', post a world' → post' a world')
    (weakerFail : ∀ e world', fail e world' → fail' e world') : Ensures x world post' fail' := by
  revert ensures
  unfold Ensures
  rcases x world with ⟨a, world'⟩ | ⟨e, world'⟩
  exacts [weaker a world', weakerFail e world']

theorem Ensures.bind {x : ClientM σ τ α} {f : α → ClientM σ τ β} {post : β → World σ τ → Prop}
    (first : Ensures x world (fun a world' => Ensures (f a) world' post fail) fail) :
    Ensures (x >>= f) world post fail := by
  revert first
  show _ → Ensures (EStateM.bind x f) world post fail
  unfold Ensures EStateM.bind
  rcases x world with ⟨a, world'⟩ | ⟨e, world'⟩ <;> exact id

theorem Ensures.store_call {call : EStateM StoreError σ α} {post : α → World σ τ → Prop}
    (ok : ∀ a store, call world.store = .ok a store → post a { world with store })
    (failed : ∀ e store, call world.store = .error e store → fail (.store e) { world with store }) :
    Ensures (onStore call) world post fail := by
  unfold Ensures onStore
  rcases called : call world.store with ⟨a, store⟩ | ⟨e, store⟩
  exacts [ok a store called, failed e store called]

theorem Ensures.sender_call {call : EStateM TransportError τ Unit} {frame : Frame}
    {post : Unit → World σ τ → Prop}
    (ok : ∀ sender, call world.sender = .ok () sender →
      post () { world with sender, published := world.published ++ [frame] })
    (failed : ∀ e sender, call world.sender = .error e sender →
      fail (.transport e) { world with sender }) :
    Ensures (onSender call frame) world post fail := by
  unfold Ensures onSender
  rcases called : call world.sender with ⟨⟨⟩, sender⟩ | ⟨e, sender⟩
  exacts [ok sender called, failed e sender called]

theorem Ensures.pure {a : α} {post : α → World σ τ → Prop} (holds : post a world) :
    Ensures (pure a) world post fail := holds

theorem Ensures.get {post : World σ τ → World σ τ → Prop} (holds : post world world) :
    Ensures get world post fail := holds

theorem Ensures.validated {validated : α} {f : α → ClientM σ τ β} {post : β → World σ τ → Prop}
    (holds : Ensures (f validated) world post fail) :
    Ensures (ofValidation (.ok validated) >>= f) world post fail := holds

theorem Ensures.rejected {e : UserValidationError} {f : α → ClientM σ τ β}
    {post : β → World σ τ → Prop} (holds : fail (.validation e) world) :
    Ensures (ofValidation (.error e) >>= f) world post fail := holds

end Ensures

/-- The store contract, through `value s key major`, the value the backend state `s` holds for
`key` at `major`: `load_prop` returns it and keeps it, `store_prop` sets it, `unset_prop` and
`delete_prop` clear it. Only calls that succeed are bound by it. -/
structure PropertyStore.Lawful {σ : Type} (S : PropertyStore σ)
    (value : σ → PropertyMapping → I32 → Option AstarteData) : Prop where
  load : ∀ {key major s loaded s'}, S.loadProp key major s = .ok loaded s' →
    loaded = value s key major ∧ value s' key major = value s key major
  store : ∀ {prop s s'}, S.storeProp prop s = .ok () s' →
    value s' ⟨prop.interface, prop.path⟩ prop.interfaceMajor = some prop.value
  unset : ∀ {key s s'}, S.unsetProp key s = .ok () s' → ∀ major, value s' key major = none
  delete : ∀ {key s s'}, S.deleteProp key s = .ok () s' → ∀ major, value s' key major = none

def MappingRef.hasKind (mapping : MappingRef) (value : AstarteData) : Bool :=
  value.mappingType == mapping.mappingType

theorem ValidatedProperty.validate_of_accepted {mapping : MappingRef} {data : AstarteData}
    (device : mapping.ownership.isDevice = true) (kind : data.mappingType = mapping.mappingType) :
    ValidatedProperty.validate mapping data = .ok ⟨mapping.interfaceName, mapping.path, data⟩ := by
  simp [ValidatedProperty.validate, device, kind]

theorem ValidatedUnset.validate_of_accepted {mapping : MappingRef}
    (device : mapping.ownership.isDevice = true) (allowed : mapping.allowUnset = true) :
    ValidatedUnset.validate mapping = .ok ⟨mapping.interfaceName, mapping.path⟩ := by
  simp [ValidatedUnset.validate, device, allowed]

theorem ValidatedProperty.eq_of_validate {mapping : MappingRef} {data : AstarteData}
    {validated : ValidatedProperty}
    (validatedOk : ValidatedProperty.validate mapping data = .ok validated) :
    validated = ⟨mapping.interfaceName, mapping.path, data⟩ := by
  unfold ValidatedProperty.validate at validatedOk
  split_ifs at validatedOk
  exact (Except.ok.inj validatedOk).symm

theorem ValidatedUnset.eq_of_validate {mapping : MappingRef} {validated : ValidatedUnset}
    (validatedOk : ValidatedUnset.validate mapping = .ok validated) :
    validated = ⟨mapping.interfaceName, mapping.path⟩ := by
  unfold ValidatedUnset.validate at validatedOk
  split_ifs at validatedOk
  exact (Except.ok.inj validatedOk).symm

theorem filter_hasKind_of_any {mapping : MappingRef} {data : AstarteData}
    (kind : data.mappingType = mapping.mappingType) {last : Option AstarteData}
    (stored : last.any (· == data) = true) : last.filter mapping.hasKind = last := by
  rcases last with _ | held
  · cases stored
  · simp [Option.filter, MappingRef.hasKind, ← kind, AstarteData.mappingType_eq_of_beq stored]

theorem any_beq_filter_hasKind {mapping : MappingRef} {data : AstarteData}
    (kind : data.mappingType = mapping.mappingType) (last : Option AstarteData) :
    (last.filter mapping.hasKind).any (· == data) = last.any (· == data) := by
  by_cases stored : last.any (· == data) = true
  · rw [filter_hasKind_of_any kind stored]
  · rcases last with _ | held
    · rfl
    · simp only [Option.filter]
      split <;> simp_all

section Spec

variable {σ τ : Type} (S : PropertyStore σ) (P : Publish τ)
  {value : σ → PropertyMapping → I32 → Option AstarteData}

theorem tryLoadProp_ensures (lawful : S.Lawful value) (mapping : MappingRef) (world : World σ τ) :
    Ensures (tryLoadProp S mapping mapping.path) world
      (fun loaded world' =>
        loaded = (value world.store mapping.key mapping.versionMajor).filter mapping.hasKind ∧
        value world'.store mapping.key mapping.versionMajor = loaded ∧
        world'.published = world.published ∧ world'.connected = world.connected)
      (fun e world' => (∃ failure, e = .store failure) ∧
        world'.published = world.published ∧ world'.connected = world.connected) := by
  refine Ensures.bind (Ensures.store_call (fun loaded store loadedOk => ?_)
    (fun failure _ _ => ⟨⟨failure, rfl⟩, rfl, rfl⟩))
  obtain ⟨rfl, kept⟩ := lawful.load loadedOk
  simp only [PropertyMapping.withPropertyPath, MappingRef.key] at kept ⊢
  rcases held : value world.store ⟨mapping.interfaceName, mapping.path⟩ mapping.versionMajor
    with _ | stored
  · exact ⟨rfl, kept.trans held, rfl, rfl⟩
  · by_cases kind : stored.mappingType = mapping.mappingType
    · simp only [kind, ne_eq, eq_self_iff_true, not_true_eq_false, if_false]
      exact ⟨by simp [Option.filter, MappingRef.hasKind, kind], kept.trans held, rfl, rfl⟩
    · simp only [kind, ne_eq, not_false_eq_true, if_true]
      refine Ensures.bind (Ensures.store_call (fun _ store deleted => ?_)
        (fun failure _ _ => ⟨⟨failure, rfl⟩, rfl, rfl⟩))
      exact ⟨by simp [Option.filter, MappingRef.hasKind, kind], lawful.delete deleted _, rfl, rfl⟩

theorem sendProperty_ensures (lawful : S.Lawful value) {mapping : MappingRef} {data : AstarteData}
    (device : mapping.ownership.isDevice = true) (kind : data.mappingType = mapping.mappingType)
    (world : World σ τ) :
    Ensures (sendProperty S P mapping data) world
      (fun _ world' => world'.connected = world.connected ∧
        ((value world.store mapping.key mapping.versionMajor).any (· == data) = true →
          world'.published = world.published ∧
          value world'.store mapping.key mapping.versionMajor =
            value world.store mapping.key mapping.versionMajor) ∧
        ((value world.store mapping.key mapping.versionMajor).any (· == data) = false →
          world'.published = world.published ++
            (if world.connected then [.property mapping.interfaceName mapping.path data] else []) ∧
          value world'.store mapping.key mapping.versionMajor = some data))
      (fun e world' => world'.published = world.published ∧ world'.connected = world.connected ∧
        ((∃ failure, e = .store failure) ∨ (∃ failure, e = .transport failure) ∧
          value world'.store mapping.key mapping.versionMajor = some data)) := by
  unfold sendProperty isPropStored
  rw [ValidatedProperty.validate_of_accepted device kind]
  refine Ensures.validated (Ensures.bind (Ensures.bind
    ((tryLoadProp_ensures S lawful mapping world).mono (fun loaded world₁ loadedPost => ?_)
      (fun _ _ ⟨stored, samePublished, sameConnected⟩ =>
        ⟨samePublished, sameConnected, .inl stored⟩))))
  obtain ⟨rfl, held, samePublished, sameConnected⟩ := loadedPost
  refine Ensures.pure ?_
  dsimp only
  rw [any_beq_filter_hasKind kind]
  by_cases stored : (value world.store mapping.key mapping.versionMajor).any (· == data) = true
  · rw [if_pos stored]
    refine Ensures.pure ⟨sameConnected, fun _ => ⟨samePublished, ?_⟩, fun notStored => ?_⟩
    · rw [held, filter_hasKind_of_any kind stored]
    · simp [stored] at notStored
  · rw [if_neg stored]
    refine Ensures.bind (Ensures.store_call (fun _ store storedOk => ?_)
      (fun failure _ _ => ⟨samePublished, sameConnected, .inl ⟨failure, rfl⟩⟩))
    refine Ensures.bind (Ensures.get ?_)
    have newValue := lawful.store storedOk
    cases connected : world.connected
    · rw [sameConnected, connected]
      exact Ensures.pure ⟨rfl, fun h => absurd h stored,
        fun _ => ⟨by simp [samePublished], newValue⟩⟩
    · rw [sameConnected, connected, if_pos rfl]
      refine Ensures.sender_call (fun sender _ => ?_)
        (fun failure _ _ => ⟨samePublished, rfl, .inr ⟨⟨failure, rfl⟩, newValue⟩⟩)
      exact ⟨rfl, fun h => absurd h stored, fun _ => ⟨by simp [samePublished], newValue⟩⟩

theorem unsetProp_ensures (lawful : S.Lawful value) {mapping : MappingRef}
    (device : mapping.ownership.isDevice = true) (allowed : mapping.allowUnset = true)
    (world : World σ τ) :
    Ensures (unsetProp S P mapping) world
      (fun _ world' => world'.connected = world.connected ∧
        world'.published = world.published ++
          (if world.connected then [.unset mapping.interfaceName mapping.path] else []) ∧
        ∀ major, value world'.store mapping.key major = none)
      (fun e _ => e.isIo = true) := by
  unfold unsetProp
  rw [ValidatedUnset.validate_of_accepted device allowed]
  refine Ensures.validated (Ensures.bind
    (Ensures.store_call (fun _ store unsetOk => ?_) (fun _ _ _ => rfl)))
  refine Ensures.bind (Ensures.get ?_)
  cases connected : world.connected
  · exact Ensures.pure ⟨rfl, by simp, lawful.unset unsetOk⟩
  · rw [if_pos rfl]
    refine Ensures.bind (Ensures.sender_call (fun sender _ => ?_) (fun _ _ _ => rfl))
    refine Ensures.store_call (fun _ store deleted => ?_) (fun _ _ _ => rfl)
    exact ⟨rfl, by simp, lawful.delete deleted⟩

end Spec

end AstarteDeviceSdk.Client
