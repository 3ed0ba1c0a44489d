import AstarteDeviceSdk.Client.PropertyRuns

/-! Calls on several properties. One store holds the properties of every interface, and the
client calls it only on the key of the mapping it resolved (`PropertyMapping::with_property_path`,
the `StoredProp` of the validated value, the `PropertyMapping` of the validated unset). Under a
store whose calls on one key leave every other key alone, each property therefore behaves as if
its calls were the only ones. -/

namespace AstarteDeviceSdk.Client

open Primitives Schema Types

def Frame.key : Frame → PropertyMapping
  | .property interface path _ | .unset interface path => ⟨interface, path⟩

section Separation

variable {σ τ α : Type} (S : PropertyStore σ) (P : Publish τ)
  {value : σ → PropertyMapping → I32 → Option AstarteData}

def KeepsOthers (value : σ → PropertyMapping → I32 → Option AstarteData) (key : PropertyMapping)
    (s s' : σ) : Prop :=
  ∀ other, other ≠ key → ∀ major, value s' other major = value s other major

theorem KeepsOthers.refl {key : PropertyMapping} (s : σ) : KeepsOthers value key s s :=
  fun _ _ _ => rfl

theorem KeepsOthers.trans {key : PropertyMapping} {s s' s'' : σ}
    (first : KeepsOthers value key s s') (second : KeepsOthers value key s' s'') :
    KeepsOthers value key s s'' :=
  fun other different major => (second other different major).trans (first other different major)

/-- The store's successful calls on one key leave every other key as it was. -/
structure PropertyStore.Separate (S : PropertyStore σ)
    (value : σ → PropertyMapping → I32 → Option AstarteData) : Prop where
  store : ∀ {prop s s'}, S.storeProp prop s = .ok () s' →
    KeepsOthers value ⟨prop.interface, prop.path⟩ s s'
  load : ∀ {key major s loaded s'}, S.loadProp key major s = .ok loaded s' →
    KeepsOthers value key s s'
  unset : ∀ {key s s'}, S.unsetProp key s = .ok () s' → KeepsOthers value key s s'
  delete : ∀ {key s s'}, S.deleteProp key s = .ok () s' → KeepsOthers value key s s'

theorem MemoryStore.value_update_ne {rows : MemoryStore} {key other : PropertyMapping}
    (different : other ≠ key) (row : Option MemoryRow) (major : I32) :
    MemoryStore.value (Function.update rows key row) other major = MemoryStore.value rows other major := by
  simp [MemoryStore.value, Function.update_noteq different]

theorem memoryStore_separate : memoryStore.Separate MemoryStore.value where
  store {_ _ _} stored _ different _ := by
    simp only [memoryStore, modify_apply, EStateM.Result.ok.injEq] at stored
    rw [← stored.2, MemoryStore.value_update_ne different]
  load {key major rows _ _} loaded other different _ := by
    simp only [memoryStore] at loaded
    split at loaded
    · split_ifs at loaded <;> simp only [EStateM.Result.ok.injEq] at loaded <;> rw [← loaded.2]
      exact MemoryStore.value_update_ne different _ _
    · simp only [EStateM.Result.ok.injEq] at loaded
      rw [← loaded.2]
  unset {_ _ _} unset _ different _ := by
    simp only [memoryStore, modify_apply, EStateM.Result.ok.injEq] at unset
    rw [← unset.2, MemoryStore.value_update_ne different]
  delete {_ _ _} deleted _ different _ := by
    simp only [memoryStore, modify_apply, EStateM.Result.ok.injEq] at deleted
    rw [← deleted.2, MemoryStore.value_update_ne different]


def OnlyTouches (value : σ → PropertyMapping → I32 → Option AstarteData) (key : PropertyMapping)
    (x : ClientM σ τ α) : Prop :=
  ∀ world, Ensures x world (fun _ world' => KeepsOthers value key world.store world'.store)
    (fun e world' => e.isIo = true ∨ KeepsOthers value key world.store world'.store)

variable {key : PropertyMapping}

theorem OnlyTouches.pure (a : α) : OnlyTouches value key (pure a : ClientM σ τ α) :=
  fun world => Ensures.pure (KeepsOthers.refl world.store)

theorem OnlyTouches.get : OnlyTouches value key (get : ClientM σ τ (World σ τ)) :=
  fun world => Ensures.get (KeepsOthers.refl world.store)

theorem OnlyTouches.bind {β : Type} {x : ClientM σ τ α} {f : α → ClientM σ τ β}
    (first : OnlyTouches value key x) (rest : ∀ a, OnlyTouches value key (f a)) :
    OnlyTouches value key (x >>= f) :=
  fun world => Ensures.bind ((first world).mono
    (fun a _ kept => ((rest a _).mono (fun _ _ kept' => kept.trans kept')
      (fun _ _ failed => failed.imp_right kept.trans)))
    (fun _ _ failed => failed))

theorem OnlyTouches.ofValidation_bind {β : Type} {result : Except UserValidationError α}
    {f : α → ClientM σ τ β}
    (rest : ∀ validated, result = .ok validated → OnlyTouches value key (f validated)) :
    OnlyTouches value key (ofValidation result >>= f) := by
  intro world
  rcases result with e | validated
  · exact Ensures.rejected (.inr (KeepsOthers.refl world.store))
  · exact Ensures.validated (rest validated rfl world)

theorem OnlyTouches.onSender {call : EStateM TransportError τ Unit} {frame : Frame} :
    OnlyTouches value key (onSender call frame : ClientM σ τ Unit) :=
  fun world => Ensures.sender_call (fun _ _ => KeepsOthers.refl world.store) (fun _ _ _ => .inl rfl)

variable {S}

theorem OnlyTouches.loadProp (separate : S.Separate value) (major : I32) :
    OnlyTouches value key (onStore (S.loadProp key major) : ClientM σ τ (Option AstarteData)) :=
  fun _ => Ensures.store_call (fun _ _ loaded => separate.load loaded) (fun _ _ _ => .inl rfl)

theorem OnlyTouches.storeProp (separate : S.Separate value) (prop : StoredProp) :
    OnlyTouches value ⟨prop.interface, prop.path⟩ (onStore (S.storeProp prop) : ClientM σ τ Unit) :=
  fun _ => Ensures.store_call (fun _ _ stored => separate.store stored) (fun _ _ _ => .inl rfl)

theorem OnlyTouches.unsetProp (separate : S.Separate value) :
    OnlyTouches value key (onStore (S.unsetProp key) : ClientM σ τ Unit) :=
  fun _ => Ensures.store_call (fun _ _ unset => separate.unset unset) (fun _ _ _ => .inl rfl)

theorem OnlyTouches.deleteProp (separate : S.Separate value) :
    OnlyTouches value key (onStore (S.deleteProp key) : ClientM σ τ Unit) :=
  fun _ => Ensures.store_call (fun _ _ deleted => separate.delete deleted) (fun _ _ _ => .inl rfl)

variable (S)

theorem tryLoadProp_onlyTouches (separate : S.Separate value) (mapping : MappingRef) :
    OnlyTouches value mapping.key (tryLoadProp S mapping mapping.path : ClientM σ τ _) := by
  refine (OnlyTouches.loadProp separate _).bind fun loaded => ?_
  rcases loaded with _ | stored
  · exact .pure _
  · dsimp only
    split_ifs
    · exact (OnlyTouches.deleteProp separate).bind fun _ => .pure _
    · exact .pure _

theorem sendProperty_onlyTouches (separate : S.Separate value) (mapping : MappingRef)
    (data : AstarteData) : OnlyTouches value mapping.key (sendProperty S P mapping data) := by
  unfold sendProperty isPropStored
  refine OnlyTouches.ofValidation_bind fun validated validatedOk => ?_
  obtain rfl := ValidatedProperty.eq_of_validate validatedOk
  refine ((tryLoadProp_onlyTouches S separate mapping).bind fun _ => .pure _).bind fun _ => ?_
  split_ifs
  · exact .pure _
  · refine (OnlyTouches.storeProp separate _).bind fun _ => OnlyTouches.get.bind fun _ => ?_
    split_ifs
    · exact .onSender
    · exact .pure _

theorem unsetProp_onlyTouches (separate : S.Separate value) (mapping : MappingRef) :
    OnlyTouches value mapping.key (unsetProp S P mapping) := by
  unfold unsetProp
  refine OnlyTouches.ofValidation_bind fun validated validatedOk => ?_
  obtain rfl := ValidatedUnset.eq_of_validate validatedOk
  refine (OnlyTouches.unsetProp separate).bind fun _ => OnlyTouches.get.bind fun _ => ?_
  split_ifs
  · exact OnlyTouches.onSender.bind fun _ => OnlyTouches.deleteProp separate
  · exact .pure _

theorem Call.exec_onlyTouches (separate : S.Separate value) (mapping : MappingRef) (call : Call) :
    OnlyTouches value mapping.key (call.exec S P mapping) := by
  cases call
  exacts [sendProperty_onlyTouches S P separate mapping _, unsetProp_onlyTouches S P separate mapping]

theorem Call.expected_key {mapping : MappingRef} {last : Option AstarteData} {call : Call}
    {frame : Frame} (member : frame ∈ call.expected mapping last) : frame.key = mapping.key := by
  unfold Call.expected at member
  split_ifs at member
  · cases call <;> simp_all [Frame.key, MappingRef.key]
  · cases member

def runMixed : List (MappingRef × Call) → World σ τ → Run σ τ
  | [], world => ⟨[], world⟩
  | (mapping, call) :: calls, world =>
    let step := outcome (call.exec S P mapping world)
    let rest := runMixed calls step.2
    ⟨step.1 :: rest.results, rest.world⟩

theorem runMixed_map (mapping : MappingRef) :
    ∀ (calls : List Call) (world : World σ τ),
      runMixed S P (calls.map (mapping, ·)) world = runCalls S P mapping calls world
  | [], _ => rfl
  | call :: calls, world => by
    simp only [List.map_cons, runMixed, runMixed_map mapping calls, runCalls]

def callsOn (mapping : MappingRef) (calls : List (MappingRef × Call)) : List Call :=
  calls.filterMap fun entry => if entry.1 = mapping then some entry.2 else none

def framesFor (key : PropertyMapping) (frames : List Frame) : List Frame :=
  frames.filter fun frame => frame.key = key

@[simp] theorem runMixed_cons_results (mapping : MappingRef) (call : Call)
    (calls : List (MappingRef × Call)) (world : World σ τ) :
    (runMixed S P ((mapping, call) :: calls) world).results =
      (outcome (call.exec S P mapping world)).1 ::
        (runMixed S P calls (outcome (call.exec S P mapping world)).2).results := rfl

@[simp] theorem runMixed_cons_world (mapping : MappingRef) (call : Call)
    (calls : List (MappingRef × Call)) (world : World σ τ) :
    (runMixed S P ((mapping, call) :: calls) world).world =
      (runMixed S P calls (outcome (call.exec S P mapping world)).2).world := rfl

@[simp] theorem framesFor_append (key : PropertyMapping) (frames more : List Frame) :
    framesFor key (frames ++ more) = framesFor key frames ++ framesFor key more :=
  List.filter_append _ _

theorem framesFor_of_keys {key : PropertyMapping} {frames : List Frame}
    (own : ∀ frame ∈ frames, frame.key = key) : framesFor key frames = frames :=
  List.filter_eq_self.mpr fun frame member => by simpa using own frame member

theorem framesFor_of_other_keys {key other : PropertyMapping} {frames : List Frame}
    (own : ∀ frame ∈ frames, frame.key = key) (different : other ≠ key) : framesFor other frames = [] :=
  List.filter_eq_nil_iff.mpr fun frame member => by simpa [own frame member] using different.symm
theorem framesFor_expected_self (mapping : MappingRef) (last : Option AstarteData) (call : Call) :
    framesFor mapping.key (call.expected mapping last) = call.expected mapping last :=
  framesFor_of_keys fun _ => Call.expected_key

theorem framesFor_expected_other {mapping other : MappingRef} (different : other.key ≠ mapping.key)
    (last : Option AstarteData) (call : Call) :
    framesFor mapping.key (call.expected other last) = [] :=
  framesFor_of_other_keys (fun _ => Call.expected_key) different.symm

/-- Each property behaves as if its calls were the only ones. Over a run of calls on several
properties with no store or transport failure, under a lawful store whose calls on one key leave
the others alone, with one mapping per key: the broker receives for the property exactly the
frames its own calls give, when connected, and the store ends holding the broker's value. -/
theorem runMixed_projects (lawful : S.Lawful value) (separate : S.Separate value)
    (mapping : MappingRef) :
    ∀ (calls : List (MappingRef × Call)) (world : World σ τ),
      (∀ entry ∈ calls, entry.1.key = mapping.key → entry.1 = mapping) →
      (∀ result ∈ (runMixed S P calls world).results, ioFailed result = false) →
      framesFor mapping.key (runMixed S P calls world).world.published =
          framesFor mapping.key world.published ++
            (if world.connected then
              expectedFrames mapping (value world.store mapping.key mapping.versionMajor)
                (callsOn mapping calls) else []) ∧
        value (runMixed S P calls world).world.store mapping.key mapping.versionMajor =
          brokerValue (value world.store mapping.key mapping.versionMajor)
            (expectedFrames mapping (value world.store mapping.key mapping.versionMajor)
              (callsOn mapping calls))
  | [], world, _, _ => by simp [runMixed, callsOn, expectedFrames]
  | (other, call) :: calls, world, oneMapping, noFailure => by
    simp only [runMixed_cons_results, List.mem_cons, forall_eq_or_imp] at noFailure
    obtain ⟨published, sameConnected, agrees⟩ :=
      (Call.exec_ensures S P lawful other call world).follows noFailure.1
    have kept := (Call.exec_onlyTouches S P separate other call world).follows noFailure.1
    obtain ⟨restFrames, restValue⟩ := runMixed_projects lawful separate mapping calls _
      (fun entry member => oneMapping entry (List.mem_cons_of_mem _ member)) noFailure.2
    rw [runMixed_cons_world, restFrames, restValue, published, sameConnected]
    by_cases same : other = mapping
    · subst same
      have onOther : callsOn other ((other, call) :: calls) = call :: callsOn other calls := by
        simp [callsOn]
      rw [agrees, onOther]
      simp only [expectedFrames, brokerValue_append, and_true]
      cases world.connected
      · simp
      · simp only [if_true, framesFor_append, framesFor_expected_self, List.append_assoc]
    · have differentKey : other.key ≠ mapping.key :=
        fun sameKey => same (oneMapping _ (List.mem_cons_self _ _) sameKey)
      have notOn : callsOn mapping ((other, call) :: calls) = callsOn mapping calls := by
        simp [callsOn, same]
      rw [kept mapping.key (Ne.symm differentKey) mapping.versionMajor, notOn]
      refine ⟨?_, rfl⟩
      cases world.connected
      · simp
      · simp only [if_true, framesFor_append, framesFor_expected_other differentKey,
          List.append_nil]

def otherProperty : MappingRef := { exampleProperty with path := "/b" }

def interleavedCalls : List (MappingRef × Call) :=
  [(exampleProperty, .sendProperty (.integer ⟨5, by decide, by decide⟩)),
    (otherProperty, .sendProperty (.integer ⟨5, by decide, by decide⟩)),
    (exampleProperty, .sendProperty (.integer ⟨5, by decide, by decide⟩)),
    (otherProperty, .sendProperty (.integer ⟨7, by decide, by decide⟩)),
    (exampleProperty, .sendProperty (.integer ⟨7, by decide, by decide⟩))]

theorem runMixed_projects_interleaved :
    framesFor exampleProperty.key
        (runMixed memoryStore acceptAll interleavedCalls connectedWorld).world.published =
      [.property "org.ex.P" "/a" (.integer ⟨5, by decide, by decide⟩),
        .property "org.ex.P" "/a" (.integer ⟨7, by decide, by decide⟩)] :=
  (runMixed_projects memoryStore acceptAll memoryStore_lawful memoryStore_separate exampleProperty
    interleavedCalls connectedWorld (by decide) (by decide)).1.trans (by decide)

end Separation

end AstarteDeviceSdk.Client
