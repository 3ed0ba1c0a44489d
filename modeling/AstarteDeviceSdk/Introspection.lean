import Mathlib

/-! The errors of adding interfaces to the device introspection (`src/introspection.rs`). The
interface error and the I/O error they wrap are not under src/ and stay parameters; a path is its
displayed text. -/

namespace AstarteDeviceSdk.Introspection

/-- `AddInterfaceError`, over the `InterfaceError` `ε` and the `std::io::Error` `ι` it wraps. -/
inductive AddInterfaceError (ε ι : Type)
  | interface (backtrace : ε)
  | io (path : String) (backtrace : ι)
  | interfaceFile (path : String) (backtrace : ε)

namespace AddInterfaceError

variable {ε ι : Type}

def message : AddInterfaceError ε ι → String
  | .interface _ => "error adding interface"
  | .io path _ => "couldn't read interface path " ++ path
  | .interfaceFile path _ => "invalid interface file " ++ path

/-- `add_path_context`; the previous path, when there is one, is only logged. -/
def addPathContext (error : AddInterfaceError ε ι) (path : String) : AddInterfaceError ε ι :=
  match error with
  | .interface backtrace => .interfaceFile path backtrace
  | .io _ backtrace => .io path backtrace
  | .interfaceFile _ backtrace => .interfaceFile path backtrace

def path? : AddInterfaceError ε ι → Option String
  | .interface _ => none
  | .io path _ | .interfaceFile path _ => some path

/-- The error it wraps: its `#[source]`, or the interface error it was made from. -/
def source : AddInterfaceError ε ι → ε ⊕ ι
  | .interface backtrace | .interfaceFile _ backtrace => .inl backtrace
  | .io _ backtrace => .inr backtrace

theorem addPathContext_names_path (error : AddInterfaceError ε ι) (path earlier : String) :
    (error.addPathContext path).path? = some path ∧
      (∃ lead, (error.addPathContext path).message = lead ++ path) ∧
      (error.addPathContext path).source = error.source ∧
      (error.addPathContext earlier).addPathContext path = error.addPathContext path := by
  cases error <;> exact ⟨rfl, ⟨_, rfl⟩, rfl, rfl⟩

end AddInterfaceError

end AstarteDeviceSdk.Introspection
