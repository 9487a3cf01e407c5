import DeployCheck.Cache.Turns
import DeployCheck.Disk.Listing
import DeployCheck.Main
import DeployCheck.Verification.Scripted
import DeployCheck.Proofs.Cache.Steps
import DeployCheck.Proofs.Cache.Tables
import DeployCheck.Proofs.Cache.Slots
import DeployCheck.Proofs.Bytecode
import DeployCheck.Proofs.Cache.Handles
import DeployCheck.Proofs.Cache.Results
import DeployCheck.Proofs.Region.Bounds
import DeployCheck.Proofs.Region.Prefix
import DeployCheck.Proofs.Verification.EmptyCode
import DeployCheck.Proofs.CommandLine.Preparation
import DeployCheck.Proofs.CommandLine.Soundness
import DeployCheck.Proofs.Cache.Recency
import DeployCheck.Proofs.Cache.Undisturbed
import DeployCheck.Proofs.Verification.Trailer
import DeployCheck.Proofs.Disk.Inside
import DeployCheck.Proofs.Disk.Flat
import DeployCheck.Proofs.Compiler.Directory
import DeployCheck.Proofs.Compiler.Starting
import DeployCheck.Proofs.Cache.Leftovers
import DeployCheck.Proofs.Verification.Isolation
import DeployCheck.Proofs.ReleaseList
import DeployCheck.Proofs.Verification.Offline
import DeployCheck.Proofs.Verification.Labels
import DeployCheck.Proofs.Compiler.Receiving
import DeployCheck.Proofs.Region.Exact
import DeployCheck.Proofs.Region.WholeBytes
import DeployCheck.Proofs.Verification.Sizes
import DeployCheck.Proofs.Compiler.Overwriting
import DeployCheck.Proofs.Version.Grammar
import DeployCheck.Proofs.Verification.Recasing
import DeployCheck.Proofs.Verification.Unprefixed
import DeployCheck.Proofs.Compiler.Containment
import DeployCheck.Proofs.Region.Idempotence
import DeployCheck.Proofs.Verification.Eras
import DeployCheck.Proofs.Sources.Reading
import DeployCheck.Proofs.Compiler.Absence
import DeployCheck.Proofs.Sources.Naming
import DeployCheck.Proofs.Settings.Tilde
import DeployCheck.Proofs.Compiler.Output
import DeployCheck.Proofs.Node.Belief
import DeployCheck.Proofs.ReleaseList.Lines
import DeployCheck.Proofs.Bytecode.Grammar
