import AstarteDeviceSdk.Client.Property

/-! Modelled from the spec: the in-memory `PropertyStore` (§4.4), one row per key, and a
transport that accepts every frame. The store keeps the store contract, so the results that
assume it are about stores that exist. -/

namespace AstarteDeviceSdk.Client

open Primitives Schema Types

structure MemoryRow where
  major : I32
  value : Option AstarteData
  ownership : Ownership
  deriving DecidableEq, Repr

abbrev MemoryStore := PropertyMapping → Option MemoryRow

def MemoryStore.empty : MemoryStore := fun _ => none

def MemoryStore.value (rows : MemoryStore) (key : PropertyMapping) (major : I32) :
    Option AstarteData :=
  match rows key with
  | some row => if row.major = major then row.value else none
  | none => none

/-- A load at another major than the row's returns nothing and drops the stale row. -/
def memoryStore : PropertyStore MemoryStore where
  storeProp prop := modify fun (rows : MemoryStore) => Function.update rows ⟨prop.interface, prop.path⟩
    (some ⟨prop.interfaceMajor, some prop.value, prop.ownership⟩)
  loadProp key major := fun rows =>
    match rows key with
    | some row =>
      if row.major = major then .ok row.value rows else .ok none (Function.update rows key none)
    | none => .ok none rows
  unsetProp key := modify fun (rows : MemoryStore) =>
    Function.update rows key ((rows key).map fun row => { row with value := none })
  deleteProp key := modify fun (rows : MemoryStore) => Function.update rows key none

theorem modify_apply {ε σ : Type} (f : σ → σ) (s : σ) :
    (modify f : EStateM ε σ Unit) s = .ok () (f s) := rfl

theorem memoryStore_lawful : memoryStore.Lawful MemoryStore.value where
  load {key major rows loaded rows'} loadOk := by
    simp only [memoryStore] at loadOk
    unfold MemoryStore.value
    rcases found : rows key with _ | row
    · simp only [found, EStateM.Result.ok.injEq] at loadOk
      obtain ⟨rfl, rfl⟩ := loadOk
      simp [found]
    · by_cases current : row.major = major
      · simp only [found, current, if_true, EStateM.Result.ok.injEq] at loadOk
        obtain ⟨rfl, rfl⟩ := loadOk
        simp [found, current]
      · simp only [found, current, if_false, EStateM.Result.ok.injEq] at loadOk
        obtain ⟨rfl, rfl⟩ := loadOk
        simp [current]
  store {prop rows rows'} storedOk := by
    simp only [memoryStore, modify_apply, EStateM.Result.ok.injEq] at storedOk
    simp [← storedOk.2, MemoryStore.value]
  unset {key rows rows'} unsetOk major := by
    simp only [memoryStore, modify_apply, EStateM.Result.ok.injEq] at unsetOk
    rw [← unsetOk.2]
    unfold MemoryStore.value
    rcases found : rows key with _ | row <;> simp [found]
  delete {key rows rows'} deleted major := by
    simp only [memoryStore, modify_apply, EStateM.Result.ok.injEq] at deleted
    simp [← deleted.2, MemoryStore.value]

def acceptAll : Publish Unit := ⟨fun _ => pure (), fun _ => pure ()⟩

def refuseAll : Publish Unit :=
  ⟨fun _ => throw (.connection "closed"), fun _ => throw (.connection "closed")⟩

end AstarteDeviceSdk.Client
