import DeployCheck.Compiler.Invocation
import DeployCheck.Node
import DeployCheck.Verification.Course
namespace DeployCheck

namespace Verification

def onHost (store : CompilerStore) (node : Node) : Collaborators Host Compiler :=
  ⟨store.load, Compiler.compile, node.code, Compiler.failsAtOnce⟩

end Verification

end DeployCheck
