import AstarteDeviceSdk.Client.Concurrent
import AstarteDeviceSdk.Client.Separation

/-! Handles that call concurrently, each on the property its own mapping resolves. Every call
suspends at its store and transport calls as in `Task.step`, and a schedule interleaves the steps
of all handles (`runPool`). Under a lawful store whose calls on one key leave the others alone,
handles on different properties do not interfere: however their steps interleave, each property
ends as its call leaves it when run alone. The race of `racing_sends_not_linearizable` needs two
handles on one property. -/

namespace AstarteDeviceSdk.Client

open Primitives Schema Types

def Task.endedWithoutIo : Task → Bool
  | .done result => !ioFailed result
  | _ => false

def Task.failedOnIo : Task → Bool
  | .done result => ioFailed result
  | _ => false

theorem Task.eq_done_of_endedWithoutIo {task : Task} (ended : task.endedWithoutIo = true) :
    ∃ result, task = .done result ∧ ioFailed result = false := by
  cases task <;> simp_all [Task.endedWithoutIo]

theorem Task.endedWithoutIo_of_failedOnIo {task : Task} (failed : task.failedOnIo = true) :
    task.endedWithoutIo = false := by
  cases task <;> simp_all [Task.endedWithoutIo, Task.failedOnIo]

theorem Call.accepted_of_validate {mapping : MappingRef} {data : AstarteData}
    {validated : ValidatedProperty} (valid : ValidatedProperty.validate mapping data = .ok validated) :
    (Call.sendProperty data).accepted mapping = true := by
  unfold ValidatedProperty.validate at valid
  split_ifs at valid
  simp_all [Call.accepted]

theorem Call.expected_sendProperty_of_valid {mapping : MappingRef} {data : AstarteData}
    {validated : ValidatedProperty} (valid : ValidatedProperty.validate mapping data = .ok validated)
    (last : Option AstarteData) :
    (Call.sendProperty data).expected mapping last =
      if last.any (· == data) then [] else [.property mapping.interfaceName mapping.path data] := by
  simp [Call.expected, Call.accepted_of_validate valid]

theorem Call.expected_sendProperty_of_invalid {mapping : MappingRef} {data : AstarteData}
    {e : UserValidationError} (invalid : ValidatedProperty.validate mapping data = .error e)
    (last : Option AstarteData) : (Call.sendProperty data).expected mapping last = [] := by
  cases accepted : (Call.sendProperty data).accepted mapping
  · simp [Call.expected, accepted]
  · obtain ⟨device, kind⟩ := Call.sendProperty_accepted accepted
    rw [ValidatedProperty.validate_of_accepted device kind] at invalid
    cases invalid

theorem Call.expected_unsetProp_of_valid {mapping : MappingRef} {validated : ValidatedUnset}
    (valid : ValidatedUnset.validate mapping = .ok validated) (last : Option AstarteData) :
    Call.unsetProp.expected mapping last = [.unset mapping.interfaceName mapping.path] := by
  unfold ValidatedUnset.validate at valid
  split_ifs at valid
  simp_all [Call.expected, Call.accepted]

theorem Call.expected_unsetProp_of_invalid {mapping : MappingRef} {e : UserValidationError}
    (invalid : ValidatedUnset.validate mapping = .error e) (last : Option AstarteData) :
    Call.unsetProp.expected mapping last = [] := by
  cases accepted : Call.unsetProp.accepted mapping
  · simp [Call.expected, accepted]
  · obtain ⟨device, allowed⟩ : mapping.ownership.isDevice = true ∧ mapping.allowUnset = true := by
      simpa [Call.accepted] using accepted
    rw [ValidatedUnset.validate_of_accepted device allowed] at invalid
    cases invalid

def SendsNew (mapping : MappingRef) (call : Call) (last : Option AstarteData)
    (validated : ValidatedProperty) : Prop :=
  ∃ data, call = .sendProperty data ∧ validated = ⟨mapping.interfaceName, mapping.path, data⟩ ∧
    call.expected mapping last = [.property mapping.interfaceName mapping.path data]

def UnsetsAccepted (mapping : MappingRef) (call : Call) (last : Option AstarteData)
    (validated : ValidatedUnset) : Prop :=
  call = .unsetProp ∧ validated = ⟨mapping.interfaceName, mapping.path⟩ ∧
    call.expected mapping last = [.unset mapping.interfaceName mapping.path]

/-- Where `call`, begun on `mapping` while the store held `last`, stands at `task`, given what the
store holds for the property now (`held`) and the property's frames published since (`sent`). A
call that has ended has done what `Call.expected` says, unless a store or transport call failed. -/
def Task.Stage (mapping : MappingRef) (call : Call) (last : Option AstarteData) (connected : Bool) :
    Task → Option AstarteData → List Frame → Prop
  | .sendProperty data, held, sent => call = .sendProperty data ∧ held = last ∧ sent = []
  | .sendDelete validated, _, sent | .sendStore validated, _, sent =>
    SendsNew mapping call last validated ∧ sent = []
  | .sendEmit validated, held, sent =>
    SendsNew mapping call last validated ∧ held = some validated.data ∧ connected = true ∧ sent = []
  | .unsetProp, held, sent => call = .unsetProp ∧ held = last ∧ sent = []
  | .unsetEmit validated, _, sent =>
    UnsetsAccepted mapping call last validated ∧ connected = true ∧ sent = []
  | .unsetDelete validated, _, sent =>
    UnsetsAccepted mapping call last validated ∧ connected = true ∧ sent = call.expected mapping last
  | .done result, held, sent => ioFailed result = false →
    held = brokerValue last (call.expected mapping last) ∧
      sent = if connected then call.expected mapping last else []

section Steps

variable {σ τ : Type} (S : PropertyStore σ) (P : Publish τ)
  {value : σ → PropertyMapping → I32 → Option AstarteData}

def Task.Advances (value : σ → PropertyMapping → I32 → Option AstarteData) (mapping : MappingRef)
    (call : Call) (last : Option AstarteData) (connected : Bool) (sent : List Frame)
    (world : World σ τ) (next : Task) (world' : World σ τ) : Prop :=
  world'.connected = world.connected ∧ KeepsOthers value mapping.key world.store world'.store ∧
    ∃ new, world'.published = world.published ++ new ∧ (∀ frame ∈ new, frame.key = mapping.key) ∧
      next.Stage mapping call last connected (value world'.store mapping.key mapping.versionMajor)
        (sent ++ new)

section Advances

variable {mapping : MappingRef} {call : Call} {last : Option AstarteData} {connected : Bool}
  {sent : List Frame} {world world' : World σ τ} {next : Task}

theorem Task.Advances.quiet (sameConnected : world'.connected = world.connected)
    (kept : KeepsOthers value mapping.key world.store world'.store)
    (samePublished : world'.published = world.published)
    (staged : next.Stage mapping call last connected
      (value world'.store mapping.key mapping.versionMajor) sent) :
    Task.Advances value mapping call last connected sent world next world' :=
  ⟨sameConnected, kept, [], (by rw [samePublished, List.append_nil]),
    (fun _ member => by cases member), (by rwa [List.append_nil])⟩

theorem Task.Advances.emit {sender : τ} {frame : Frame} (key : frame.key = mapping.key)
    (staged : next.Stage mapping call last connected
      (value world.store mapping.key mapping.versionMajor) (sent ++ [frame])) :
    Task.Advances value mapping call last connected sent world next
      { world with sender, published := world.published ++ [frame] } :=
  ⟨rfl, KeepsOthers.refl _, [frame], rfl, (by simpa using key), staged⟩

end Advances

variable {S}

theorem Task.step_advances (lawful : S.Lawful value) (separate : S.Separate value)
    {mapping : MappingRef} {call : Call} {last : Option AstarteData} {sent : List Frame}
    (world : World σ τ) :
    ∀ task : Task, task.Stage mapping call last world.connected
        (value world.store mapping.key mapping.versionMajor) sent →
      Ensures (task.step S P mapping) world
        (Task.Advances value mapping call last world.connected sent world)
        (fun e world' => e.isIo = true ∨
          Task.Advances value mapping call last world.connected sent world (.done (.error e)) world')
  | .sendProperty data, staged => by
    obtain ⟨rfl, held, rfl⟩ := staged
    refine Ensures.bind (Ensures.ofValidation (fun validated valid => ?_)
      (fun _ invalid => .inr (.quiet rfl (.refl _) rfl fun _ =>
        ⟨by rw [Call.expected_sendProperty_of_invalid invalid, brokerValue_nil, held],
          by rw [Call.expected_sendProperty_of_invalid invalid, ite_self]⟩)))
    have kind := (Call.sendProperty_accepted (Call.accepted_of_validate valid)).2
    have expected := Call.expected_sendProperty_of_valid valid last
    obtain rfl := ValidatedProperty.eq_of_validate valid
    refine Ensures.bind (Ensures.store_call (fun loaded store
      (loadedOk : S.loadProp mapping.key mapping.versionMajor world.store = .ok loaded store) => ?_)
      (fun _ _ _ => .inl rfl))
    obtain ⟨rfl, kept⟩ := lawful.load loadedOk
    have others := separate.load loadedOk
    rw [held] at kept ⊢
    rcases last with _ | stored
    · exact Ensures.pure (.quiet rfl others rfl ⟨⟨data, rfl, rfl, by simpa using expected⟩, rfl⟩)
    · dsimp only
      split_ifs with other same
      · have fresh : (stored == data) = false := Bool.eq_false_iff.mpr fun same =>
          other ((AstarteData.mappingType_eq_of_beq same).trans kind)
        exact Ensures.pure (.quiet rfl others rfl ⟨⟨data, rfl, rfl, by simpa [fresh] using expected⟩,
          rfl⟩)
      · exact Ensures.pure (.quiet rfl others rfl fun _ => ⟨by simp [kept, expected, same],
          by simp [expected, same]⟩)
      · exact Ensures.pure (.quiet rfl others rfl ⟨⟨data, rfl, rfl, by simpa [same] using expected⟩,
          rfl⟩)
  | .sendDelete _, staged => by
    obtain ⟨sends, rfl⟩ := staged
    exact Ensures.bind (Ensures.store_call
      (fun _ _ deleted => Ensures.pure (.quiet rfl (separate.delete deleted) rfl ⟨sends, rfl⟩))
      (fun _ _ _ => .inl rfl))
  | .sendStore _, staged => by
    obtain ⟨⟨data, rfl, rfl, expected⟩, rfl⟩ := staged
    refine Ensures.bind (Ensures.store_call (fun _ store stored => Ensures.bind (Ensures.get ?_))
      (fun _ _ _ => .inl rfl))
    have now : value store mapping.key mapping.versionMajor = some data := lawful.store stored
    dsimp only
    split_ifs with online
    · exact Ensures.pure (.quiet rfl (separate.store stored) rfl
        ⟨⟨data, rfl, rfl, expected⟩, now, online, rfl⟩)
    · exact Ensures.pure (.quiet rfl (separate.store stored) rfl fun _ =>
        ⟨by simp [now, expected, Frame.value], by simp [online]⟩)
  | .sendEmit _, staged => by
    obtain ⟨⟨data, rfl, rfl, expected⟩, held, online, rfl⟩ := staged
    exact Ensures.bind (Ensures.sender_call (fun _ _ => Ensures.pure (.emit rfl fun _ =>
      ⟨by simp [held, expected, Frame.value], by simp [online, expected]⟩)) (fun _ _ _ => .inl rfl))
  | .unsetProp, staged => by
    obtain ⟨rfl, held, rfl⟩ := staged
    refine Ensures.bind (Ensures.ofValidation (fun validated valid => ?_)
      (fun _ invalid => .inr (.quiet rfl (.refl _) rfl fun _ =>
        ⟨by rw [Call.expected_unsetProp_of_invalid invalid, brokerValue_nil, held],
          by rw [Call.expected_unsetProp_of_invalid invalid, ite_self]⟩)))
    have expected := Call.expected_unsetProp_of_valid valid last
    obtain rfl := ValidatedUnset.eq_of_validate valid
    refine Ensures.bind (Ensures.store_call (fun _ store unset => Ensures.bind (Ensures.get ?_))
      (fun _ _ _ => .inl rfl))
    have cleared : value store mapping.key mapping.versionMajor = none := lawful.unset unset _
    dsimp only
    split_ifs with online
    · exact Ensures.pure (.quiet rfl (separate.unset unset) rfl ⟨⟨rfl, rfl, expected⟩, online, rfl⟩)
    · exact Ensures.pure (.quiet rfl (separate.unset unset) rfl fun _ =>
        ⟨by simp [cleared, expected, Frame.value], by simp [online]⟩)
  | .unsetEmit _, staged => by
    obtain ⟨⟨rfl, rfl, expected⟩, online, rfl⟩ := staged
    exact Ensures.bind (Ensures.sender_call
      (fun _ _ => Ensures.pure (.emit rfl ⟨⟨rfl, rfl, expected⟩, online, expected.symm⟩))
      (fun _ _ _ => .inl rfl))
  | .unsetDelete _, staged => by
    obtain ⟨⟨rfl, rfl, expected⟩, online, rfl⟩ := staged
    refine Ensures.bind (Ensures.store_call (fun _ store deleted => ?_) (fun _ _ _ => .inl rfl))
    have cleared : value store mapping.key mapping.versionMajor = none := lawful.delete deleted _
    exact Ensures.pure (.quiet rfl (separate.delete deleted) rfl fun _ =>
      ⟨by simp [cleared, expected, Frame.value], by simp [online]⟩)
  | .done _, staged => Ensures.pure (.quiet rfl (.refl _) rfl staged)

theorem Task.advance_advances (lawful : S.Lawful value) (separate : S.Separate value)
    {mapping : MappingRef} {call : Call} {last : Option AstarteData} {sent : List Frame}
    (world : World σ τ) (task : Task)
    (staged : task.Stage mapping call last world.connected
      (value world.store mapping.key mapping.versionMajor) sent) :
    (task.advance S P mapping world).1.failedOnIo = true ∨
      Task.Advances value mapping call last world.connected sent world
        (task.advance S P mapping world).1 (task.advance S P mapping world).2 := by
  have stepped := Task.step_advances P lawful separate world task staged
  revert stepped
  unfold Ensures Task.advance
  rcases task.step S P mapping world with ⟨next, world'⟩ | ⟨e, world'⟩
  exacts [.inr, id]

variable (S)

def runPool : List Nat → List (MappingRef × Task) → World σ τ → List (MappingRef × Task) × World σ τ
  | [], tasks, world => (tasks, world)
  | index :: schedule, tasks, world =>
    match tasks[index]? with
    | some (mapping, task) =>
      runPool schedule (tasks.set index (mapping, (task.advance S P mapping world).1))
        (task.advance S P mapping world).2
    | none => runPool schedule tasks world

theorem runPool_map (mapping : MappingRef) :
    ∀ (schedule : List Nat) (tasks : List Task) (world : World σ τ),
      runPool S P schedule (tasks.map (mapping, ·)) world =
        ((runSchedule S P mapping schedule tasks world).1.map (mapping, ·),
          (runSchedule S P mapping schedule tasks world).2)
  | [], _, _ => rfl
  | index :: schedule, tasks, world => by
    simp only [runPool, runSchedule, List.getElem?_map]
    cases tasks[index]? with
    | none => exact runPool_map mapping schedule tasks world
    | some task =>
      rw [← runPool_map mapping schedule (tasks.set index _) _, List.map_set]
      rfl

theorem runPool_failed_stays :
    ∀ (schedule : List Nat) (tasks : List (MappingRef × Task)) (world : World σ τ) (index : Nat)
      (entry : MappingRef × Task), tasks[index]? = some entry → entry.2.failedOnIo = true →
        (runPool S P schedule tasks world).1[index]? = some entry
  | [], _, _, _, _, found, _ => found
  | step :: schedule, tasks, world, index, entry, found, failed => by
    unfold runPool
    split
    · rename_i mapping task stepped
      refine runPool_failed_stays schedule _ _ index entry ?_ failed
      by_cases same : step = index
      · subst same
        obtain rfl := Option.some.inj (found.symm.trans stepped)
        obtain ⟨result, rfl⟩ : ∃ result, task = .done result := by
          cases task <;> simp_all [Task.failedOnIo]
        rw [List.getElem?_set_self (List.getElem?_eq_some_iff.mp found).1]
        rfl
      · rwa [List.getElem?_set_ne same]
    · exact runPool_failed_stays schedule tasks world index entry found failed

structure PoolStaged (value : σ → PropertyMapping → I32 → Option AstarteData) (start : World σ τ)
    (calls : List (MappingRef × Call)) (tasks : List (MappingRef × Task)) (world : World σ τ) :
    Prop where
  connected : world.connected = start.connected
  length : tasks.length = calls.length
  stages : ∀ (index : Nat) (entry : MappingRef × Call), calls[index]? = some entry →
    ∃ task sent, tasks[index]? = some (entry.1, task) ∧
      framesFor entry.1.key world.published = framesFor entry.1.key start.published ++ sent ∧
      task.Stage entry.1 entry.2 (value start.store entry.1.key entry.1.versionMajor)
        start.connected (value world.store entry.1.key entry.1.versionMajor) sent

def SomeFailedOnIo (tasks : List (MappingRef × Task)) : Prop :=
  ∃ (index : Nat) (entry : MappingRef × Task), tasks[index]? = some entry ∧ entry.2.failedOnIo = true

theorem key_ne_of_nodup {calls : List (MappingRef × Call)}
    (distinct : (calls.map fun entry => entry.1.key).Nodup) {index other : Nat}
    {entry otherEntry : MappingRef × Call} (found : calls[index]? = some entry)
    (otherFound : calls[other]? = some otherEntry) (different : index ≠ other) :
    otherEntry.1.key ≠ entry.1.key := by
  intro same
  obtain ⟨inBounds, rfl⟩ := List.getElem?_eq_some_iff.mp found
  obtain ⟨otherInBounds, rfl⟩ := List.getElem?_eq_some_iff.mp otherFound
  exact different ((@List.Nodup.getElem_inj_iff _ _ distinct index (by simpa using inBounds) other
    (by simpa using otherInBounds)).mp (by simpa using same.symm))

theorem PoolStaged.start (start : World σ τ) (calls : List (MappingRef × Call)) :
    PoolStaged value start calls (calls.map fun entry => (entry.1, Task.ofCall entry.2)) start :=
  ⟨rfl, List.length_map _ _, fun _ entry found => ⟨Task.ofCall entry.2, [], by simp [found],
    (List.append_nil _).symm, by rcases entry with ⟨_, _ | _⟩ <;> exact ⟨rfl, rfl, rfl⟩⟩⟩

theorem PoolStaged.advance {start world world' : World σ τ} {calls : List (MappingRef × Call)}
    {tasks : List (MappingRef × Task)} {index : Nat} {entry : MappingRef × Call} {next : Task}
    {sent : List Frame} (distinct : (calls.map fun entry => entry.1.key).Nodup)
    (staged : PoolStaged value start calls tasks world) (found : calls[index]? = some entry)
    (framesNow : framesFor entry.1.key world.published = framesFor entry.1.key start.published ++ sent)
    (advanced : Task.Advances value entry.1 entry.2 (value start.store entry.1.key entry.1.versionMajor)
      start.connected sent world next world') :
    PoolStaged value start calls (tasks.set index (entry.1, next)) world' := by
  obtain ⟨sameConnected, kept, new, published, ownKeys, nextStaged⟩ := advanced
  refine ⟨sameConnected.trans staged.connected, by rw [List.length_set, staged.length],
    fun other otherEntry otherFound => ?_⟩
  by_cases same : index = other
  · subst same
    obtain rfl := Option.some.inj (found.symm.trans otherFound)
    have bound : index < tasks.length := staged.length ▸ (List.getElem?_eq_some_iff.mp found).1
    refine ⟨next, sent ++ new, List.getElem?_set_self bound, ?_, nextStaged⟩
    rw [published, framesFor_append, framesNow, framesFor_of_keys ownKeys, List.append_assoc]
  · have differentKey := key_ne_of_nodup distinct found otherFound same
    obtain ⟨task, sent', taskFound, frames, stage⟩ := staged.stages other otherEntry otherFound
    refine ⟨task, sent', by rwa [List.getElem?_set_ne same], ?_, ?_⟩
    · rw [published, framesFor_append, framesFor_of_other_keys ownKeys differentKey, List.append_nil,
        frames]
    · rwa [kept _ differentKey]

theorem runPool_staged (lawful : S.Lawful value) (separate : S.Separate value) {start : World σ τ}
    {calls : List (MappingRef × Call)} (distinct : (calls.map fun entry => entry.1.key).Nodup) :
    ∀ (schedule : List Nat) (tasks : List (MappingRef × Task)) (world : World σ τ),
      PoolStaged value start calls tasks world →
      PoolStaged value start calls (runPool S P schedule tasks world).1
          (runPool S P schedule tasks world).2 ∨
        SomeFailedOnIo (runPool S P schedule tasks world).1
  | [], _, _, staged => .inl staged
  | index :: schedule, tasks, world, staged => by
    unfold runPool
    split
    · rename_i mapping task found
      have bound : index < calls.length := staged.length ▸ (List.getElem?_eq_some_iff.mp found).1
      obtain ⟨entry, called⟩ : ∃ entry, calls[index]? = some entry := ⟨_, List.getElem?_eq_getElem bound⟩
      obtain ⟨_, sent, taskFound, framesNow, stage⟩ := staged.stages index entry called
      obtain ⟨rfl, rfl⟩ := Prod.mk.inj (Option.some.inj (found.symm.trans taskFound))
      rw [← staged.connected] at stage
      rcases Task.advance_advances P lawful separate world _ stage with failed | advanced
      · exact .inr ⟨index, _, runPool_failed_stays S P schedule _ _ index _
          (List.getElem?_set_self (List.getElem?_eq_some_iff.mp found).1) failed, failed⟩
      · rw [staged.connected] at advanced
        exact runPool_staged lawful separate distinct schedule _ _
          (staged.advance distinct called framesNow advanced)
    · exact runPool_staged lawful separate distinct schedule tasks world staged

/-- Handles on different properties do not interfere. Under a lawful store whose calls on one key
leave the others alone, however the steps of the handles' calls interleave, once every call has
ended without a store or transport failure: the broker has received for each property exactly the
frames its call gives alone, when connected, and the store holds the broker's value. -/
theorem runPool_independent (lawful : S.Lawful value) (separate : S.Separate value)
    (calls : List (MappingRef × Call)) (distinct : (calls.map fun entry => entry.1.key).Nodup)
    (schedule : List Nat) (world : World σ τ)
    (ended : ∀ entry ∈ (runPool S P schedule
      (calls.map fun entry => (entry.1, Task.ofCall entry.2)) world).1,
        entry.2.endedWithoutIo = true) :
    ∀ entry ∈ calls,
      framesFor entry.1.key (runPool S P schedule
          (calls.map fun entry => (entry.1, Task.ofCall entry.2)) world).2.published =
          framesFor entry.1.key world.published ++
            (if world.connected then
              entry.2.expected entry.1 (value world.store entry.1.key entry.1.versionMajor)
            else []) ∧
        value (runPool S P schedule
            (calls.map fun entry => (entry.1, Task.ofCall entry.2)) world).2.store
            entry.1.key entry.1.versionMajor =
          brokerValue (value world.store entry.1.key entry.1.versionMajor)
            (entry.2.expected entry.1 (value world.store entry.1.key entry.1.versionMajor)) := by
  intro entry member
  obtain ⟨index, found⟩ := List.mem_iff_getElem?.mp member
  rcases runPool_staged S P lawful separate distinct schedule _ world (PoolStaged.start world calls)
    with staged | ⟨_, failedEntry, failedFound, failed⟩
  · obtain ⟨task, sent, taskFound, frames, stage⟩ := staged.stages index entry found
    obtain ⟨result, rfl, noFailure⟩ :=
      Task.eq_done_of_endedWithoutIo (ended _ (List.getElem?_mem taskFound))
    obtain ⟨held, sentAll⟩ := stage noFailure
    exact ⟨by rw [frames, sentAll], held⟩
  · have stillEnded := ended failedEntry (List.getElem?_mem failedFound)
    rw [Task.endedWithoutIo_of_failedOnIo failed] at stillEnded
    cases stillEnded

end Steps

def pairedCalls : List (MappingRef × Call) :=
  [(exampleProperty, .sendProperty (.integer ⟨5, by decide, by decide⟩)),
    (otherProperty, .sendProperty (.integer ⟨7, by decide, by decide⟩))]

theorem runPool_independent_paired :
    framesFor exampleProperty.key (runPool memoryStore acceptAll [0, 1, 0, 1, 1, 0]
        (pairedCalls.map fun entry => (entry.1, Task.ofCall entry.2)) connectedWorld).2.published =
      [.property "org.ex.P" "/a" (.integer ⟨5, by decide, by decide⟩)] :=
  (runPool_independent memoryStore acceptAll memoryStore_lawful memoryStore_separate pairedCalls
    (by decide) [0, 1, 0, 1, 1, 0] connectedWorld (by decide) _
    (List.mem_cons_self _ _)).1.trans (by decide)

end AstarteDeviceSdk.Client
