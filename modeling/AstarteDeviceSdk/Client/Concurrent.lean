import AstarteDeviceSdk.Client.PropertyRuns

/-! Property calls of several client handles that share one store and one connection. A call
suspends at each store and transport call (`load_prop`, `delete_prop`, `store_prop`,
`unset_prop`, the transport's `send_property` and `unset`), and only the interface registry's
read lock is held across these points. A `Task` is a call stopped before its next such point, and
a schedule says which task takes its next step.

A serial schedule runs the calls as the sequential client does. Every schedule keeps what was
published and adds only the calls' own frames, each call's at most once; it need not be
linearizable. -/

namespace AstarteDeviceSdk.Client

open Primitives Schema Types

/-- A call of one handle, stopped before its next store or transport call: `send_property` before
validation and `load_prop`, before deleting a value of another type, before `store_prop`, before
the transport's `send_property`; `unset_prop` before validation and the store's `unset_prop`,
before the transport's `unset`, before `delete_prop`. -/
inductive Task
  | sendProperty (data : AstarteData)
  | sendDelete (validated : ValidatedProperty)
  | sendStore (validated : ValidatedProperty)
  | sendEmit (validated : ValidatedProperty)
  | unsetProp
  | unsetEmit (validated : ValidatedUnset)
  | unsetDelete (validated : ValidatedUnset)
  | done (result : Except Error Unit)
  deriving Repr

def Task.ofCall : Call → Task
  | .sendProperty data => .sendProperty data
  | .unsetProp => .unsetProp

def Call.frame (mapping : MappingRef) : Call → Frame
  | .sendProperty data => .property mapping.interfaceName mapping.path data
  | .unsetProp => .unset mapping.interfaceName mapping.path

section Tasks

variable {σ τ : Type} (S : PropertyStore σ) (P : Publish τ)

/-- The step of a task up to its next suspension point: the store or transport call, then the
code that runs before the next one. -/
def Task.step (mapping : MappingRef) : Task → ClientM σ τ Task
  | .sendProperty data => do
    let validated ← ofValidation (ValidatedProperty.validate mapping data)
    let value ← onStore (S.loadProp (PropertyMapping.withPropertyPath mapping mapping.path)
      mapping.versionMajor)
    match value with
    | some value =>
      if value.mappingType ≠ mapping.mappingType then pure (.sendDelete validated)
      else if value == validated.data then pure (.done (.ok ()))
      else pure (.sendStore validated)
    | none => pure (.sendStore validated)
  | .sendDelete validated => do
    onStore (S.deleteProp (PropertyMapping.withPropertyPath mapping mapping.path))
    pure (.sendStore validated)
  | .sendStore validated => do
    onStore (S.storeProp ⟨validated.interface, validated.path, validated.data,
      mapping.versionMajor, .device⟩)
    if (← get).connected then pure (.sendEmit validated) else pure (.done (.ok ()))
  | .sendEmit validated => do
    onSender (P.sendProperty validated)
      (.property validated.interface validated.path validated.data)
    pure (.done (.ok ()))
  | .unsetProp => do
    let validated ← ofValidation (ValidatedUnset.validate mapping)
    onStore (S.unsetProp validated.toPropertyMapping)
    if (← get).connected then pure (.unsetEmit validated) else pure (.done (.ok ()))
  | .unsetEmit validated => do
    onSender (P.unset validated) (.unset validated.interface validated.path)
    pure (.unsetDelete validated)
  | .unsetDelete validated => do
    onStore (S.deleteProp validated.toPropertyMapping)
    pure (.done (.ok ()))
  | .done result => pure (.done result)

def Task.advance (mapping : MappingRef) (task : Task) (world : World σ τ) : Task × World σ τ :=
  match task.step S P mapping world with
  | .ok next world' => (next, world')
  | .error e world' => (.done (.error e), world')

def runSchedule (mapping : MappingRef) : List Nat → List Task → World σ τ → List Task × World σ τ
  | [], tasks, world => (tasks, world)
  | index :: schedule, tasks, world =>
    match tasks[index]? with
    | some task =>
      runSchedule mapping schedule (tasks.set index (task.advance S P mapping world).1)
        (task.advance S P mapping world).2
    | none => runSchedule mapping schedule tasks world

/-- The tail of `send_property` from `store_prop` on. -/
def sendTail (mapping : MappingRef) (validated : ValidatedProperty) : ClientM σ τ Unit := do
  let prop : StoredProp := ⟨validated.interface, validated.path, validated.data,
    mapping.versionMajor, .device⟩
  onStore (S.storeProp prop)
  if (← get).connected then
    onSender (P.sendProperty validated) (.property validated.interface validated.path validated.data)

/-- What is left of the call a task stands for, as the sequential client code runs it. -/
def Task.rest (mapping : MappingRef) : Task → ClientM σ τ Unit
  | .sendProperty data => Client.sendProperty S P mapping data
  | .sendDelete validated => do
    onStore (S.deleteProp (PropertyMapping.withPropertyPath mapping mapping.path))
    sendTail S P mapping validated
  | .sendStore validated => sendTail S P mapping validated
  | .sendEmit validated =>
    onSender (P.sendProperty validated) (.property validated.interface validated.path validated.data)
  | .unsetProp => Client.unsetProp S P mapping
  | .unsetEmit validated => do
    onSender (P.unset validated) (.unset validated.interface validated.path)
    onStore (S.deleteProp validated.toPropertyMapping)
  | .unsetDelete validated => onStore (S.deleteProp validated.toPropertyMapping)
  | .done result => fun world =>
    match result with
    | .ok () => .ok () world
    | .error e => .error e world

theorem pure_apply {α : Type} (a : α) (world : World σ τ) :
    (pure a : ClientM σ τ α) world = .ok a world := rfl

theorem Task.rest_advance (mapping : MappingRef) (task : Task) (world : World σ τ) :
    task.rest S P mapping world =
      (task.advance S P mapping world).1.rest S P mapping (task.advance S P mapping world).2 := by
  cases task with
  | sendProperty data =>
    simp only [Task.rest, Task.advance, Task.step, Client.sendProperty, isPropStored, tryLoadProp]
    rcases ValidatedProperty.validate mapping data with e | validated
    · rfl
    · simp only [bind, EStateM.bind, ofValidation, onStore]
      rcases loaded : S.loadProp (PropertyMapping.withPropertyPath mapping mapping.path)
        mapping.versionMajor world.store with ⟨value, store⟩ | ⟨e, store⟩
      · simp only [loaded]
        rcases value with _ | value
        · rfl
        · by_cases kind : value.mappingType = mapping.mappingType
          · simp only [kind, ne_eq, eq_self_iff_true, not_true_eq_false, if_false, pure_apply,
              Option.any_some]
            cases value == validated.data <;> rfl
          · simp only [kind, ne_eq, not_false_eq_true, if_true, pure_apply, EStateM.bind, onStore]
            rcases S.deleteProp (PropertyMapping.withPropertyPath mapping mapping.path) store
              with ⟨⟨⟩, store⟩ | ⟨e, store⟩ <;> rfl
      · rfl
  | sendDelete validated =>
    simp only [Task.rest, Task.advance, Task.step, bind, EStateM.bind, onStore]
    rcases S.deleteProp (PropertyMapping.withPropertyPath mapping mapping.path) world.store
      with ⟨⟨⟩, store⟩ | ⟨e, store⟩ <;> rfl
  | sendStore validated =>
    obtain ⟨store, sender, connected, published⟩ := world
    simp only [Task.rest, Task.advance, Task.step, sendTail, bind, EStateM.bind, onStore]
    rcases S.storeProp ⟨validated.interface, validated.path, validated.data, mapping.versionMajor,
      .device⟩ store with ⟨⟨⟩, store⟩ | ⟨e, store⟩
    · cases connected <;> rfl
    · rfl
  | sendEmit validated =>
    simp only [Task.rest, Task.advance, Task.step, bind, EStateM.bind, onSender]
    rcases P.sendProperty validated world.sender with ⟨⟨⟩, sender⟩ | ⟨e, sender⟩ <;> rfl
  | unsetProp =>
    obtain ⟨store, sender, connected, published⟩ := world
    simp only [Task.rest, Task.advance, Task.step, Client.unsetProp]
    rcases ValidatedUnset.validate mapping with e | validated
    · rfl
    · simp only [bind, EStateM.bind, ofValidation, onStore]
      rcases S.unsetProp validated.toPropertyMapping store with ⟨⟨⟩, store⟩ | ⟨e, store⟩
      · cases connected <;> rfl
      · rfl
  | unsetEmit validated =>
    simp only [Task.rest, Task.advance, Task.step, bind, EStateM.bind, onSender]
    rcases P.unset validated world.sender with ⟨⟨⟩, sender⟩ | ⟨e, sender⟩ <;> rfl
  | unsetDelete validated =>
    simp only [Task.rest, Task.advance, Task.step, bind, EStateM.bind, onStore]
    rcases S.deleteProp validated.toPropertyMapping world.store with ⟨⟨⟩, store⟩ | ⟨e, store⟩ <;> rfl
  | done result => rfl

def Task.remaining : Task → Nat
  | .sendProperty _ => 4
  | .sendDelete _ => 3
  | .sendStore _ => 2
  | .sendEmit _ => 1
  | .unsetProp => 3
  | .unsetEmit _ => 2
  | .unsetDelete _ => 1
  | .done _ => 0

theorem Task.eq_done_of_remaining {task : Task} (ended : task.remaining = 0) :
    ∃ result, task = .done result := by
  cases task <;> simp_all [Task.remaining]

theorem Ensures.ofValidation {α : Type} {result : Except UserValidationError α} {world : World σ τ}
    {post : α → World σ τ → Prop} {fail : Error → World σ τ → Prop}
    (ok : ∀ validated, result = .ok validated → post validated world)
    (rejected : ∀ e, result = .error e → fail (.validation e) world) :
    Ensures (ofValidation result) world post fail := by
  unfold Ensures Client.ofValidation
  rcases result with e | validated
  exacts [rejected e rfl, ok validated rfl]

def Task.pendingFrame (mapping : MappingRef) : Task → Option Frame
  | .sendProperty data => some (.property mapping.interfaceName mapping.path data)
  | .sendDelete validated | .sendStore validated | .sendEmit validated =>
    some (.property validated.interface validated.path validated.data)
  | .unsetProp => some (.unset mapping.interfaceName mapping.path)
  | .unsetEmit validated => some (.unset validated.interface validated.path)
  | .unsetDelete _ | .done _ => none

def SentWithin (world world' : World σ τ) (before after : List Frame) : Prop :=
  ∃ sent : List Frame, world'.published = world.published ++ sent ∧ (sent ++ after).Subperm before

theorem SentWithin.none {world world' : World σ τ} {before after : List Frame}
    (same : world'.published = world.published) (fewer : after.Subperm before) :
    SentWithin world world' before after :=
  ⟨[], by rw [same, List.append_nil], fewer⟩

def Task.Progress (mapping : MappingRef) (task next : Task) (world world' : World σ τ) : Prop :=
  (0 < task.remaining → next.remaining < task.remaining) ∧
    SentWithin world world' (task.pendingFrame mapping).toList (next.pendingFrame mapping).toList

theorem Task.Progress.quiet {mapping : MappingRef} {task next : Task} {world world' : World σ τ}
    (closer : next.remaining < task.remaining)
    (fewer : (next.pendingFrame mapping).toList.Subperm (task.pendingFrame mapping).toList)
    (same : world'.published = world.published) : task.Progress mapping next world world' :=
  ⟨fun _ => closer, SentWithin.none same fewer⟩

theorem Task.step_progress (mapping : MappingRef) (world : World σ τ) :
    ∀ task : Task, Ensures (task.step S P mapping) world (fun next => task.Progress mapping next world)
      (fun _ world' => world'.published = world.published)
  | .sendProperty data => by
    refine Ensures.bind (Ensures.ofValidation (fun validated validatedOk => ?_) (fun _ _ => rfl))
    obtain rfl := ValidatedProperty.eq_of_validate validatedOk
    refine Ensures.bind (Ensures.store_call (fun loaded _ _ => ?_) (fun _ _ _ => rfl))
    rcases loaded with _ | value
    · exact Ensures.pure (.quiet (by simp [Task.remaining]) (.refl _) rfl)
    · dsimp only
      split_ifs
      all_goals exact Ensures.pure (.quiet (by simp [Task.remaining])
        (by simp [Task.pendingFrame]) rfl)
  | .sendDelete _ => Ensures.bind (Ensures.store_call
      (fun _ _ _ => Ensures.pure (.quiet (by simp [Task.remaining]) (.refl _) rfl))
      (fun _ _ _ => rfl))
  | .sendStore _ => by
    refine Ensures.bind (Ensures.store_call (fun _ _ _ => Ensures.bind (Ensures.get ?_))
      (fun _ _ _ => rfl))
    split_ifs
    all_goals exact Ensures.pure (.quiet (by simp [Task.remaining])
      (by simp [Task.pendingFrame]) rfl)
  | .sendEmit _ => Ensures.bind (Ensures.sender_call
      (fun _ _ => Ensures.pure ⟨fun _ => by simp [Task.remaining], [_], rfl, .refl _⟩)
      (fun _ _ _ => rfl))
  | .unsetProp => by
    refine Ensures.bind (Ensures.ofValidation (fun validated validatedOk => ?_) (fun _ _ => rfl))
    obtain rfl := ValidatedUnset.eq_of_validate validatedOk
    refine Ensures.bind (Ensures.store_call (fun _ _ _ => Ensures.bind (Ensures.get ?_))
      (fun _ _ _ => rfl))
    split_ifs
    all_goals exact Ensures.pure (.quiet (by simp [Task.remaining])
      (by simp [Task.pendingFrame]) rfl)
  | .unsetEmit _ => Ensures.bind (Ensures.sender_call
      (fun _ _ => Ensures.pure ⟨fun _ => by simp [Task.remaining], [_], rfl, .refl _⟩)
      (fun _ _ _ => rfl))
  | .unsetDelete _ => Ensures.bind (Ensures.store_call
      (fun _ _ _ => Ensures.pure (.quiet (by simp [Task.remaining]) (.refl _) rfl))
      (fun _ _ _ => rfl))
  | .done _ => Ensures.pure ⟨fun stopped => absurd stopped (Nat.lt_irrefl 0),
      SentWithin.none rfl (.refl _)⟩

theorem Task.advance_progress (mapping : MappingRef) (task : Task) (world : World σ τ) :
    task.Progress mapping (task.advance S P mapping world).1 world
      (task.advance S P mapping world).2 := by
  have stepped := Task.step_progress S P mapping world task
  revert stepped
  unfold Ensures Task.advance
  rcases task.step S P mapping world with ⟨next, world'⟩ | ⟨e, world'⟩
  · exact id
  · exact fun same => ⟨id, SentWithin.none same (List.nil_subperm)⟩

def Task.advanceN (mapping : MappingRef) : Nat → Task → World σ τ → Task × World σ τ
  | 0, task, world => (task, world)
  | n + 1, task, world =>
    Task.advanceN mapping n (task.advance S P mapping world).1 (task.advance S P mapping world).2

theorem Task.rest_advanceN (mapping : MappingRef) :
    ∀ (n : Nat) (task : Task) (world : World σ τ),
      task.rest S P mapping world =
        (Task.advanceN S P mapping n task world).1.rest S P mapping
          (Task.advanceN S P mapping n task world).2
  | 0, _, _ => rfl
  | n + 1, task, world =>
    (task.rest_advance S P mapping world).trans (Task.rest_advanceN mapping n _ _)

theorem Task.advanceN_done (mapping : MappingRef) (result : Except Error Unit) :
    ∀ (n : Nat) (world : World σ τ),
      Task.advanceN S P mapping n (.done result) world = (.done result, world)
  | 0, _ => rfl
  | n + 1, world => Task.advanceN_done mapping result n world

theorem Task.advanceN_ends (mapping : MappingRef) :
    ∀ (n : Nat) (task : Task) (world : World σ τ), task.remaining ≤ n →
      ∃ result, (Task.advanceN S P mapping n task world).1 = .done result
  | 0, task, _, bound => by
    obtain ⟨result, rfl⟩ := Task.eq_done_of_remaining (Nat.le_zero.mp bound)
    exact ⟨result, rfl⟩
  | n + 1, task, world, bound => by
    by_cases running : 0 < task.remaining
    · have closer := (task.advance_progress S P mapping world).1 running
      exact Task.advanceN_ends mapping n _ _ (by omega)
    · obtain ⟨result, rfl⟩ := Task.eq_done_of_remaining (Nat.eq_zero_of_not_pos running)
      exact ⟨result, by rw [Task.advanceN_done]⟩

theorem Task.advanceN_ofCall (mapping : MappingRef) (call : Call) (world : World σ τ) :
    Task.advanceN S P mapping 4 (Task.ofCall call) world =
      (.done (outcome (call.exec S P mapping world)).1, (outcome (call.exec S P mapping world)).2) := by
  obtain ⟨result, ended⟩ := Task.advanceN_ends S P mapping 4 (Task.ofCall call) world
    (by cases call <;> simp [Task.ofCall, Task.remaining])
  have same := Task.rest_advanceN S P mapping 4 (Task.ofCall call) world
  have rest : (Task.ofCall call).rest S P mapping = call.exec S P mapping := by cases call <;> rfl
  rw [rest, ended] at same
  rw [same]
  refine Prod.ext ?_ ?_
  · rw [ended]
    rcases result with e | ⟨⟩ <;> rfl
  · rcases result with e | ⟨⟩ <;> rfl

theorem runSchedule_append (mapping : MappingRef) :
    ∀ (first second : List Nat) (tasks : List Task) (world : World σ τ),
      runSchedule S P mapping (first ++ second) tasks world =
        runSchedule S P mapping second (runSchedule S P mapping first tasks world).1
          (runSchedule S P mapping first tasks world).2
  | [], _, _, _ => rfl
  | index :: first, second, tasks, world => by
    simp only [List.cons_append, runSchedule]
    split <;> exact runSchedule_append mapping first second _ _

theorem runSchedule_replicate (mapping : MappingRef) (index : Nat) :
    ∀ (n : Nat) (task : Task) (tasks : List Task) (world : World σ τ), tasks[index]? = some task →
      runSchedule S P mapping (List.replicate (n + 1) index) tasks world =
        (tasks.set index (Task.advanceN S P mapping (n + 1) task world).1,
          (Task.advanceN S P mapping (n + 1) task world).2)
  | 0, task, tasks, world, found => by simp [runSchedule, Task.advanceN, found]
  | n + 1, task, tasks, world, found => by
    rw [List.replicate_succ, runSchedule, found]
    dsimp only
    rw [runSchedule_replicate mapping index n (task.advance S P mapping world).1 _ _
      (List.getElem?_set_self (List.getElem?_eq_some_iff.mp found).1), List.set_set]
    rfl

def serialSchedule (first count : Nat) : List Nat :=
  (List.range' first count).flatMap (List.replicate 4)

theorem runSchedule_serial_from (mapping : MappingRef) :
    ∀ (calls : List Call) (done : List Task) (world : World σ τ),
      runSchedule S P mapping (serialSchedule done.length calls.length)
          (done ++ calls.map Task.ofCall) world =
        (done ++ (runCalls S P mapping calls world).results.map Task.done,
          (runCalls S P mapping calls world).world)
  | [], done, world => by simp [serialSchedule, runSchedule]
  | call :: calls, done, world => by
    have found : (done ++ (call :: calls).map Task.ofCall)[done.length]? =
        some (Task.ofCall call) := by
      rw [List.getElem?_append_right (Nat.le_refl _), Nat.sub_self]
      simp
    have next := runSchedule_serial_from mapping calls
      (done ++ [.done (outcome (call.exec S P mapping world)).1])
      (outcome (call.exec S P mapping world)).2
    simp only [List.length_append, List.length_singleton, List.append_assoc,
      List.singleton_append] at next
    simp only [serialSchedule, List.length_cons, List.range'_succ, List.flatMap_cons] at next ⊢
    rw [runSchedule_append, runSchedule_replicate S P mapping _ 3 _ _ _ found,
      Task.advanceN_ofCall]
    simpa [List.set_append_right] using next

/-- Calls that do not overlap: the serial schedule ends every task with the result the sequential
client gives, in the world the sequential client leaves. -/
theorem runSchedule_serial (mapping : MappingRef) (calls : List Call) (world : World σ τ) :
    runSchedule S P mapping (serialSchedule 0 calls.length) (calls.map Task.ofCall) world =
      ((runCalls S P mapping calls world).results.map Task.done,
        (runCalls S P mapping calls world).world) := by
  simpa using runSchedule_serial_from S P mapping calls [] world

def pendingFrames (mapping : MappingRef) (tasks : List Task) : List Frame :=
  tasks.flatMap fun task => (task.pendingFrame mapping).toList

theorem pendingFrames_set (mapping : MappingRef) {task : Task} (next : Task) :
    ∀ {tasks : List Task} {index : Nat}, tasks[index]? = some task →
      (pendingFrames mapping (tasks.set index next) ++ (task.pendingFrame mapping).toList).Perm
        (pendingFrames mapping tasks ++ (next.pendingFrame mapping).toList)
  | _ :: _, 0, found => by
    simp only [List.getElem?_cons_zero, Option.some.injEq] at found
    subst found
    simp only [pendingFrames, List.set_cons_zero, List.flatMap_cons, List.append_assoc]
    exact List.perm_iff_count.mpr fun frame => by simp only [List.count_append]; omega
  | _ :: _, index + 1, found => by
    have rest := pendingFrames_set mapping next (List.getElem?_cons_succ ▸ found)
    simp only [pendingFrames, List.set_cons_succ, List.flatMap_cons, List.append_assoc] at rest ⊢
    exact rest.append_left _

theorem pendingFrames_ofCall (mapping : MappingRef) :
    ∀ calls : List Call, pendingFrames mapping (calls.map Task.ofCall) = calls.map (Call.frame mapping)
  | [] => rfl
  | call :: calls => by
    have rest := pendingFrames_ofCall mapping calls
    simp only [pendingFrames, List.map_cons, List.flatMap_cons] at rest ⊢
    rw [rest]
    cases call <;> rfl

theorem runSchedule_frames (mapping : MappingRef) :
    ∀ (schedule : List Nat) (tasks : List Task) (world : World σ τ),
      SentWithin world (runSchedule S P mapping schedule tasks world).2 (pendingFrames mapping tasks)
        (pendingFrames mapping (runSchedule S P mapping schedule tasks world).1)
  | [], tasks, world => SentWithin.none rfl (.refl _)
  | index :: schedule, tasks, world => by
    unfold runSchedule
    split
    · rename_i task found
      obtain ⟨sent, published, within⟩ := (task.advance_progress S P mapping world).2
      obtain ⟨sent', published', within'⟩ := runSchedule_frames mapping schedule
        (tasks.set index (task.advance S P mapping world).1) (task.advance S P mapping world).2
      have moved := pendingFrames_set mapping (task.advance S P mapping world).1 found
      refine ⟨sent ++ sent', by rw [published', published, List.append_assoc],
        List.subperm_ext_iff.mpr fun frame _ => ?_⟩
      have stepCount := within.count_le frame
      have restCount := within'.count_le frame
      have movedCount := List.perm_iff_count.mp moved frame
      simp only [List.count_append] at stepCount restCount movedCount ⊢
      omega
    · exact runSchedule_frames mapping schedule tasks world

/-- However the steps of concurrent calls interleave, no frame published before is lost, and the
frames added are the calls' own frames, each call's at most once: a race can reorder the calls'
frames or drop one, never invent one or send one twice. -/
theorem runSchedule_published_bound (mapping : MappingRef) (schedule : List Nat)
    (calls : List Call) (world : World σ τ) :
    ∃ sent, (runSchedule S P mapping schedule (calls.map Task.ofCall) world).2.published =
        world.published ++ sent ∧ sent.Subperm (calls.map (Call.frame mapping)) := by
  obtain ⟨sent, published, within⟩ := runSchedule_frames S P mapping schedule
    (calls.map Task.ofCall) world
  rw [pendingFrames_ofCall] at within
  exact ⟨sent, published, (List.sublist_append_left sent _).subperm.trans within⟩

end Tasks

def racingCalls : List Call :=
  [.sendProperty (.integer ⟨1, by decide, by decide⟩),
    .sendProperty (.integer ⟨2, by decide, by decide⟩)]

/-- Both handles load before either stores; the second to store is the first to send. -/
def racingSchedule : List Nat := [0, 1, 0, 1, 1, 0]

theorem racing_sends_not_linearizable :
    (∀ order : List Call, order.Perm racingCalls →
      ((runCalls memoryStore acceptAll exampleProperty order connectedWorld).world.published,
        MemoryStore.value (runCalls memoryStore acceptAll exampleProperty order connectedWorld).world.store
          exampleProperty.key exampleProperty.versionMajor) ≠
      ((runSchedule memoryStore acceptAll exampleProperty racingSchedule
          (racingCalls.map Task.ofCall) connectedWorld).2.published,
        MemoryStore.value (runSchedule memoryStore acceptAll exampleProperty racingSchedule
          (racingCalls.map Task.ofCall) connectedWorld).2.store
          exampleProperty.key exampleProperty.versionMajor)) ∧
    MemoryStore.value (runSchedule memoryStore acceptAll exampleProperty racingSchedule
        (racingCalls.map Task.ofCall) connectedWorld).2.store
        exampleProperty.key exampleProperty.versionMajor ≠
      brokerValue none (runSchedule memoryStore acceptAll exampleProperty racingSchedule
        (racingCalls.map Task.ofCall) connectedWorld).2.published ∧
    (runSchedule memoryStore acceptAll exampleProperty [0, 1, 0, 1, 0, 1]
        [.sendProperty (.integer ⟨1, by decide, by decide⟩),
          .sendProperty (.integer ⟨1, by decide, by decide⟩)] connectedWorld).2.published =
      [.property "org.ex.P" "/a" (.integer ⟨1, by decide, by decide⟩),
        .property "org.ex.P" "/a" (.integer ⟨1, by decide, by decide⟩)] := by
  refine ⟨fun order reordered => ?_, by decide, by decide⟩
  have orders := List.mem_permutations'.mpr reordered
  simp only [racingCalls, List.permutations', List.permutations'Aux, List.flatMap_cons,
    List.flatMap_nil, List.map_cons, List.map_nil, List.append_nil, List.cons_append,
    List.nil_append, List.mem_cons, List.mem_singleton, List.not_mem_nil, or_false] at orders
  rcases orders with rfl | rfl <;> decide

end AstarteDeviceSdk.Client
