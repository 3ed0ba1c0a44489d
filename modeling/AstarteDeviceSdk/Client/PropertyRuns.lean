import AstarteDeviceSdk.Client.MemoryStore

/-! Whole runs of property calls by one client, against what the property engine is for: the
broker holds the property's last value, receives each value it does not hold already and each
unset, and the store holds what the broker holds (`Call.expected`, `brokerValue`). -/

namespace AstarteDeviceSdk.Client

open Primitives Schema Types

def brokerValue (last : Option AstarteData) (frames : List Frame) : Option AstarteData :=
  frames.foldl (fun _ frame => frame.value) last

@[simp] theorem brokerValue_nil (last : Option AstarteData) : brokerValue last [] = last := rfl

@[simp] theorem brokerValue_append (last : Option AstarteData) (frames more : List Frame) :
    brokerValue last (frames ++ more) = brokerValue (brokerValue last frames) more :=
  List.foldl_append _ _ _ _

@[simp] theorem brokerValue_singleton (last : Option AstarteData) (frame : Frame) :
    brokerValue last [frame] = frame.value := rfl

inductive Call
  | sendProperty (data : AstarteData)
  | unsetProp
  deriving DecidableEq, Repr

def Call.exec {σ τ : Type} (S : PropertyStore σ) (P : Publish τ) (mapping : MappingRef) :
    Call → ClientM σ τ Unit
  | .sendProperty data => Client.sendProperty S P mapping data
  | .unsetProp => Client.unsetProp S P mapping

def Call.accepted (mapping : MappingRef) : Call → Bool
  | .sendProperty data => mapping.ownership.isDevice && data.mappingType == mapping.mappingType
  | .unsetProp => mapping.ownership.isDevice && mapping.allowUnset

/-- The frames the broker should receive for `call` while it holds `last`: nothing for a call
the validator rejects or for a value equal to `last`, the value or the unset otherwise. -/
def Call.expected (mapping : MappingRef) (last : Option AstarteData) (call : Call) : List Frame :=
  if call.accepted mapping then
    match call with
    | .sendProperty data =>
      if last.any (· == data) then [] else [.property mapping.interfaceName mapping.path data]
    | .unsetProp => [.unset mapping.interfaceName mapping.path]
  else []

def expectedFrames (mapping : MappingRef) (last : Option AstarteData) : List Call → List Frame
  | [] => []
  | call :: calls =>
    call.expected mapping last ++
      expectedFrames mapping (brokerValue last (call.expected mapping last)) calls

def outcome {ω α : Type} : EStateM.Result Error ω α → Except Error α × ω
  | .ok a world => (.ok a, world)
  | .error e world => (.error e, world)

def ioFailed : Except Error Unit → Bool
  | .ok () => false
  | .error e => e.isIo

structure Run (σ τ : Type) where
  results : List (Except Error Unit)
  world : World σ τ

section Runs

variable {σ τ : Type} (S : PropertyStore σ) (P : Publish τ)
  {value : σ → PropertyMapping → I32 → Option AstarteData}

/-- Calls made one after another by one client; a failed call does not stop the next. -/
def runCalls (mapping : MappingRef) : List Call → World σ τ → Run σ τ
  | [], world => ⟨[], world⟩
  | call :: calls, world =>
    let step := outcome (call.exec S P mapping world)
    let rest := runCalls mapping calls step.2
    ⟨step.1 :: rest.results, rest.world⟩

def Follows (value : σ → PropertyMapping → I32 → Option AstarteData) (mapping : MappingRef)
    (call : Call) (world world' : World σ τ) : Prop :=
  world'.published = world.published ++
      (if world.connected then
        call.expected mapping (value world.store mapping.key mapping.versionMajor) else []) ∧
    world'.connected = world.connected ∧
    value world'.store mapping.key mapping.versionMajor =
      brokerValue (value world.store mapping.key mapping.versionMajor)
        (call.expected mapping (value world.store mapping.key mapping.versionMajor))

theorem Ensures.follows {x : ClientM σ τ Unit} {world : World σ τ} {rel : World σ τ → Prop}
    (ensures : Ensures x world (fun _ => rel) (fun e world' => e.isIo = true ∨ rel world'))
    (noFailure : ioFailed (outcome (x world)).1 = false) : rel (outcome (x world)).2 := by
  revert ensures noFailure
  unfold Ensures
  rcases x world with ⟨⟨⟩, world'⟩ | ⟨e, world'⟩
  · exact fun holds _ => holds
  · intro holds noFailure
    exact holds.resolve_left (by simpa [outcome, ioFailed] using noFailure)

theorem ValidatedProperty.validate_of_rejected {mapping : MappingRef} {data : AstarteData}
    (rejected : (Call.sendProperty data).accepted mapping = false) :
    ∃ e, ValidatedProperty.validate mapping data = .error e := by
  unfold ValidatedProperty.validate
  split_ifs with owner kind
  · exact ⟨_, rfl⟩
  · exact ⟨_, rfl⟩
  · simp_all [Call.accepted]

theorem ValidatedUnset.validate_of_rejected {mapping : MappingRef}
    (rejected : Call.unsetProp.accepted mapping = false) :
    ∃ e, ValidatedUnset.validate mapping = .error e := by
  unfold ValidatedUnset.validate
  split_ifs with owner allowed
  · exact ⟨_, rfl⟩
  · exact ⟨_, rfl⟩
  · simp_all [Call.accepted]

theorem Call.sendProperty_accepted {mapping : MappingRef} {data : AstarteData}
    (accepted : (Call.sendProperty data).accepted mapping = true) :
    mapping.ownership.isDevice = true ∧ data.mappingType = mapping.mappingType := by
  simpa [Call.accepted] using accepted

theorem sendProperty_of_rejected {mapping : MappingRef} {data : AstarteData}
    (rejected : (Call.sendProperty data).accepted mapping = false) (world : World σ τ) :
    ∃ e, sendProperty S P mapping data world = .error (.validation e) world := by
  obtain ⟨e, refused⟩ := ValidatedProperty.validate_of_rejected rejected
  exact ⟨e, by unfold sendProperty; rw [refused]; rfl⟩

theorem Call.exec_ensures (lawful : S.Lawful value) (mapping : MappingRef) (call : Call)
    (world : World σ τ) :
    Ensures (call.exec S P mapping) world (fun _ => Follows value mapping call world)
      (fun e world' => e.isIo = true ∨ Follows value mapping call world world') := by
  cases call with
  | sendProperty data =>
    cases accepted : (Call.sendProperty data).accepted mapping
    · obtain ⟨e, refused⟩ := sendProperty_of_rejected S P accepted world
      show Ensures (Client.sendProperty S P mapping data) world _ _
      unfold Ensures
      rw [refused]
      exact .inr ⟨by simp [Call.expected, accepted], rfl, by simp [Call.expected, accepted]⟩
    · obtain ⟨device, kind⟩ := Call.sendProperty_accepted accepted
      show Ensures (Client.sendProperty S P mapping data) world _ _
      refine (sendProperty_ensures S P lawful device kind world).mono
        (fun _ world' ⟨sameConnected, ifStored, ifNew⟩ => ?_)
        (fun _ _ ⟨_, _, failure⟩ => .inl (by rcases failure with ⟨_, rfl⟩ | ⟨⟨_, rfl⟩, _⟩ <;> rfl))
      cases stored : (value world.store mapping.key mapping.versionMajor).any (· == data)
      · obtain ⟨published, newValue⟩ := ifNew stored
        exact ⟨by simp [published, Call.expected, accepted, stored], sameConnected,
          by simp [newValue, Call.expected, accepted, stored, Frame.value]⟩
      · obtain ⟨published, kept⟩ := ifStored stored
        exact ⟨by simp [published, Call.expected, accepted, stored], sameConnected,
          by simp [kept, Call.expected, accepted, stored]⟩
  | unsetProp =>
    cases accepted : Call.unsetProp.accepted mapping
    · obtain ⟨e, rejected⟩ := ValidatedUnset.validate_of_rejected accepted
      show Ensures (Client.unsetProp S P mapping) world _ _
      unfold Client.unsetProp
      rw [rejected]
      exact Ensures.rejected (.inr ⟨by simp [Call.expected, accepted], rfl,
        by simp [Call.expected, accepted]⟩)
    · obtain ⟨device, allowed⟩ : mapping.ownership.isDevice = true ∧
          mapping.allowUnset = true := by simpa [Call.accepted] using accepted
      show Ensures (Client.unsetProp S P mapping) world _ _
      refine (unsetProp_ensures S P lawful device allowed world).mono
        (fun _ world' ⟨sameConnected, published, cleared⟩ => ?_) (fun _ _ failed => .inl failed)
      exact ⟨by simp [published, Call.expected, accepted], sameConnected,
        by simp [cleared, Call.expected, accepted, Frame.value]⟩

@[simp] theorem runCalls_nil (mapping : MappingRef) (world : World σ τ) :
    runCalls S P mapping [] world = ⟨[], world⟩ := rfl

@[simp] theorem runCalls_cons_results (mapping : MappingRef) (call : Call) (calls : List Call)
    (world : World σ τ) :
    (runCalls S P mapping (call :: calls) world).results =
      (outcome (call.exec S P mapping world)).1 ::
        (runCalls S P mapping calls (outcome (call.exec S P mapping world)).2).results := rfl

@[simp] theorem runCalls_cons_world (mapping : MappingRef) (call : Call) (calls : List Call)
    (world : World σ τ) :
    (runCalls S P mapping (call :: calls) world).world =
      (runCalls S P mapping calls (outcome (call.exec S P mapping world)).2).world := rfl

theorem runCalls_follows (lawful : S.Lawful value) (mapping : MappingRef) :
    ∀ (calls : List Call) (world : World σ τ),
      (∀ result ∈ (runCalls S P mapping calls world).results, ioFailed result = false) →
      (runCalls S P mapping calls world).world.published = world.published ++
          (if world.connected then
            expectedFrames mapping (value world.store mapping.key mapping.versionMajor) calls
          else []) ∧
        (runCalls S P mapping calls world).world.connected = world.connected ∧
        value (runCalls S P mapping calls world).world.store mapping.key mapping.versionMajor =
          brokerValue (value world.store mapping.key mapping.versionMajor)
            (expectedFrames mapping (value world.store mapping.key mapping.versionMajor) calls)
  | [], world, _ => by simp [expectedFrames]
  | call :: calls, world, noFailure => by
    simp only [runCalls_cons_results, List.mem_cons, forall_eq_or_imp] at noFailure
    obtain ⟨published, sameConnected, agrees⟩ :=
      (Call.exec_ensures S P lawful mapping call world).follows noFailure.1
    obtain ⟨restPublished, restConnected, restAgrees⟩ :=
      runCalls_follows lawful mapping calls _ noFailure.2
    rw [agrees] at restPublished restAgrees
    refine ⟨?_, restConnected.trans sameConnected, by simp [restAgrees, expectedFrames]⟩
    rw [runCalls_cons_world, restPublished, published, sameConnected]
    cases world.connected <;> simp [expectedFrames]

/-- A connected client's run under the store contract, with no store or transport failure, from a
store that holds the broker's value: the broker receives exactly the expected frames, the store
keeps holding the broker's value, and `try_load_prop` returns that value when it has the
mapping's type. -/
theorem runCalls_matches_broker (lawful : S.Lawful value) {mapping : MappingRef}
    {calls : List Call} {world : World σ τ} {initial : Option AstarteData}
    (connected : world.connected = true)
    (start : value world.store mapping.key mapping.versionMajor =
      brokerValue initial world.published)
    (noFailure : ∀ result ∈ (runCalls S P mapping calls world).results, ioFailed result = false) :
    (runCalls S P mapping calls world).world.published =
        world.published ++ expectedFrames mapping (brokerValue initial world.published) calls ∧
      value (runCalls S P mapping calls world).world.store mapping.key mapping.versionMajor =
        brokerValue initial (runCalls S P mapping calls world).world.published ∧
      ∀ loaded world', tryLoadProp S mapping mapping.path (runCalls S P mapping calls world).world =
          .ok loaded world' →
        loaded = (brokerValue initial (runCalls S P mapping calls world).world.published).filter
          mapping.hasKind := by
  obtain ⟨published, -, agrees⟩ := runCalls_follows S P lawful mapping calls world noFailure
  rw [connected, if_pos rfl, start] at published
  have holds : value (runCalls S P mapping calls world).world.store mapping.key
      mapping.versionMajor = brokerValue initial (runCalls S P mapping calls world).world.published := by
    rw [agrees, published, start, brokerValue_append]
  refine ⟨published, holds, fun loaded world' loadedOk => ?_⟩
  have loadedPost := tryLoadProp_ensures S lawful mapping (runCalls S P mapping calls world).world
  unfold Ensures at loadedPost
  rw [loadedOk] at loadedPost
  rw [loadedPost.1, holds]

end Runs

def exampleProperty : MappingRef :=
  ⟨"org.ex.P", ⟨1, by decide, by decide⟩, .device, .integer, false, "/a"⟩

def connectedWorld : World MemoryStore Unit := ⟨MemoryStore.empty, (), true, []⟩

theorem runCalls_matches_broker_scenario :
    (runCalls memoryStore acceptAll exampleProperty
        [.sendProperty (.integer ⟨5, by decide, by decide⟩),
          .sendProperty (.integer ⟨5, by decide, by decide⟩),
          .sendProperty (.integer ⟨7, by decide, by decide⟩)] connectedWorld).world.published =
      [.property "org.ex.P" "/a" (.integer ⟨5, by decide, by decide⟩),
        .property "org.ex.P" "/a" (.integer ⟨7, by decide, by decide⟩)] :=
  (runCalls_matches_broker memoryStore acceptAll memoryStore_lawful rfl
    (show MemoryStore.value MemoryStore.empty exampleProperty.key exampleProperty.versionMajor =
      brokerValue none [] from rfl) (by decide)).1.trans (by decide)

/-- A value of another type than the mapping's, then an unset on a mapping without
`allow_unset`: no store or transport call fails, the broker held nothing, and yet neither the
value nor the unset is sent, since the validator rejects both calls. -/
theorem runCalls_rejected_calls_not_sent :
    memoryStore.Lawful MemoryStore.value ∧ connectedWorld.connected = true ∧
      (∀ result ∈ (runCalls memoryStore acceptAll exampleProperty
        [.sendProperty (.boolean true), .unsetProp] connectedWorld).results,
          ioFailed result = false) ∧
      (runCalls memoryStore acceptAll exampleProperty
        [.sendProperty (.boolean true), .unsetProp] connectedWorld).world.published = [] :=
  ⟨memoryStore_lawful, rfl, by decide, by decide⟩

section Extras

variable {σ τ : Type} (S : PropertyStore σ) (P : Publish τ)
  {value : σ → PropertyMapping → I32 → Option AstarteData}

theorem runCalls_offline (lawful : S.Lawful value) {mapping : MappingRef} {calls : List Call}
    {world : World σ τ} (offline : world.connected = false)
    (noFailure : ∀ result ∈ (runCalls S P mapping calls world).results, ioFailed result = false) :
    (runCalls S P mapping calls world).world.published = world.published ∧
      value (runCalls S P mapping calls world).world.store mapping.key mapping.versionMajor =
        brokerValue (value world.store mapping.key mapping.versionMajor)
          (expectedFrames mapping (value world.store mapping.key mapping.versionMajor) calls) := by
  obtain ⟨published, -, agrees⟩ := runCalls_follows S P lawful mapping calls world noFailure
  rw [offline, if_neg Bool.false_ne_true, List.append_nil] at published
  exact ⟨published, agrees⟩

def offlineWorld : World MemoryStore Unit := ⟨MemoryStore.empty, (), false, []⟩

theorem runCalls_offline_scenario :
    (runCalls memoryStore acceptAll exampleProperty
        [.sendProperty (.integer ⟨5, by decide, by decide⟩)] offlineWorld).world.published = [] ∧
      MemoryStore.value (runCalls memoryStore acceptAll exampleProperty
          [.sendProperty (.integer ⟨5, by decide, by decide⟩)] offlineWorld).world.store
        exampleProperty.key exampleProperty.versionMajor =
        some (.integer ⟨5, by decide, by decide⟩) := by
  obtain ⟨published, stored⟩ := @runCalls_offline _ _ memoryStore acceptAll _ memoryStore_lawful
    exampleProperty [.sendProperty (.integer ⟨5, by decide, by decide⟩)] offlineWorld rfl
    (by decide)
  exact ⟨published, stored.trans (by decide)⟩

theorem sendProperty_failure_sends_nothing (lawful : S.Lawful value) {mapping : MappingRef}
    {data : AstarteData} {world world' : World σ τ} {e : Error}
    (failed : sendProperty S P mapping data world = .error e world') :
    world'.published = world.published ∧
      ∀ failure, e = .transport failure →
        value world'.store mapping.key mapping.versionMajor = some data := by
  cases accepted : (Call.sendProperty data).accepted mapping
  · obtain ⟨rejection, refused⟩ := sendProperty_of_rejected S P accepted world
    rw [refused] at failed
    cases failed
    exact ⟨rfl, fun _ transport => by cases transport⟩
  · obtain ⟨device, kind⟩ := Call.sendProperty_accepted accepted
    have ensures := sendProperty_ensures S P lawful device kind world
    unfold Ensures at ensures
    rw [failed] at ensures
    obtain ⟨published, -, failure⟩ := ensures
    refine ⟨published, fun _ transport => ?_⟩
    rcases failure with ⟨_, rfl⟩ | ⟨-, stored⟩
    exacts [(by cases transport), stored]

theorem sendProperty_refused_sends_nothing :
    ∃ world', sendProperty memoryStore refuseAll exampleProperty
        (.integer ⟨5, by decide, by decide⟩) connectedWorld =
          .error (.transport (.connection "closed")) world' ∧
      world'.published = [] ∧
      MemoryStore.value world'.store exampleProperty.key exampleProperty.versionMajor =
        some (.integer ⟨5, by decide, by decide⟩) := by
  obtain ⟨world', failed⟩ : ∃ world', sendProperty memoryStore refuseAll exampleProperty
      (.integer ⟨5, by decide, by decide⟩) connectedWorld =
        .error (.transport (.connection "closed")) world' := ⟨_, by rfl⟩
  have holds := sendProperty_failure_sends_nothing memoryStore refuseAll memoryStore_lawful failed
  exact ⟨world', failed, holds.1, holds.2 _ rfl⟩

theorem expectedFrames_replicate_held (mapping : MappingRef) (data : AstarteData) :
    ∀ retries : Nat,
      expectedFrames mapping (some data) (List.replicate retries (.sendProperty data)) = []
  | 0 => rfl
  | retries + 1 => by
    have skipped : (Call.sendProperty data).expected mapping (some data) = [] := by
      simp [Call.expected, AstarteData.beq_self]
    rw [List.replicate_succ, expectedFrames, skipped, brokerValue_nil,
      expectedFrames_replicate_held mapping data retries]
    rfl

/-- Once a `send_property` has failed on the transport, the value is stored but was never sent,
and retrying the same value never sends it: after any number of retries, none failing on the
store or the transport, the broker still has not received it and the store still holds it. -/
theorem sendProperty_retries_never_sent (lawful : S.Lawful value) {mapping : MappingRef}
    {data : AstarteData} {world world₁ : World σ τ} {failure : TransportError}
    (failed : sendProperty S P mapping data world = .error (.transport failure) world₁)
    (retries : Nat)
    (noFailure : ∀ result ∈ (runCalls S P mapping (List.replicate retries (.sendProperty data))
      world₁).results, ioFailed result = false) :
    (runCalls S P mapping (List.replicate retries (.sendProperty data)) world₁).world.published =
        world.published ∧
      value (runCalls S P mapping (List.replicate retries (.sendProperty data)) world₁).world.store
        mapping.key mapping.versionMajor = some data := by
  obtain ⟨sentNothing, stored⟩ := sendProperty_failure_sends_nothing S P lawful failed
  obtain ⟨published, -, held⟩ := runCalls_follows S P lawful mapping _ world₁ noFailure
  rw [stored _ rfl, expectedFrames_replicate_held] at published held
  rw [published, ite_self, List.append_nil, sentNothing]
  exact ⟨rfl, held⟩

/-- A transport whose first send fails and which accepts every later one. -/
def failFirst : Publish Bool where
  sendProperty _ := fun failedBefore =>
    if failedBefore then .ok () true else .error (.connection "closed") true
  unset _ := fun failedBefore =>
    if failedBefore then .ok () true else .error (.connection "closed") true

def flakyWorld : World MemoryStore Bool := ⟨MemoryStore.empty, false, true, []⟩

def flakyFailedWorld : World MemoryStore Bool :=
  ⟨Function.update MemoryStore.empty exampleProperty.key
    (some ⟨exampleProperty.versionMajor, some (.integer ⟨5, by decide, by decide⟩), .device⟩),
    true, true, []⟩

theorem sendProperty_retries_flaky :
    sendProperty memoryStore failFirst exampleProperty (.integer ⟨5, by decide, by decide⟩)
        flakyWorld = .error (.transport (.connection "closed")) flakyFailedWorld ∧
      (runCalls memoryStore failFirst exampleProperty
        (List.replicate 3 (.sendProperty (.integer ⟨5, by decide, by decide⟩)))
        flakyFailedWorld).world.published = [] ∧
      MemoryStore.value (runCalls memoryStore failFirst exampleProperty
        (List.replicate 3 (.sendProperty (.integer ⟨5, by decide, by decide⟩)))
        flakyFailedWorld).world.store exampleProperty.key exampleProperty.versionMajor =
          some (.integer ⟨5, by decide, by decide⟩) := by
  have failed : sendProperty memoryStore failFirst exampleProperty
      (.integer ⟨5, by decide, by decide⟩) flakyWorld =
        .error (.transport (.connection "closed")) flakyFailedWorld := by rfl
  exact ⟨failed, sendProperty_retries_never_sent memoryStore failFirst memoryStore_lawful failed 3
    (by decide)⟩

end Extras

end AstarteDeviceSdk.Client
