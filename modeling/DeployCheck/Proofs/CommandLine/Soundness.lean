import DeployCheck.Proofs.CommandLine.Preparation
import DeployCheck.Proofs.Compiler.Starting
import DeployCheck.Proofs.Node
import DeployCheck.Proofs.Verification.Stages
/-!
What a verdict rests on. The command to verify ends well, or with the failure of a comparison, only
after every source was read, the compiler of the label was loaded, a program was run on exactly those
sources, the node answered the question for the code at the address, and the two regions were
compared. The program is the one that was loaded if the directory of the compilers has an absolute
path. A relative path is read again in the fresh directory of the run.
-/
namespace DeployCheck

open Text

namespace Program

variable {invocation : CommandLine.Invocation} {home : Option String} {host loaded after : Host}
  {label contract file address base : String} {paths : List String} {format : Format}
  {settings : Settings} {request : Verification.Request} {told : Told Unit} {verdict : Bool}
  {store : CompilerStore} {node : Node} {sources : SourceTree} {digits code : String}

/-! ## What a verdict rests on -/

/-- The compiler of the label was loaded, and a program was run once, on exactly these sources and
with the optimizer. From an absolute directory it is the program that was loaded. From a relative one
it is what the path of the compiler leads to from the fresh directory of the run, and that is nothing
unless the path goes up. The program ended well, and what it printed is an artifact map with these
digits at the key. -/
structure CompiledBy (store : CompilerStore) (label : String) (sources : SourceTree)
    (key digits : String) (host loaded after : Host) (run : Run) (finished : Finished) : Prop where
  loads : store.load label host = (.ok ⟨label, store.programPath label⟩, loaded)
  found : CompilerStore.LinkFree label host.disk →
    loaded.pathExists (store.programPath label) = true
  ran : Compiler.RanOn loaded (store.programPath label) sources true run finished
  once : after.runs = host.runs ++ [run]
  absolute : Path.isAbsolute store.directory = true →
    loaded.pathExists (store.programPath label) = true →
    loaded.disk.programAt loaded.workingDirectory (store.programPath label) =
      .ok (run.program, finished)
  relative : Path.isAbsolute store.directory = false → ".." ∈ Path.segments store.directory
  success : finished.ending.isSuccess = true
  printed : ∃ artifacts, CombinedOutput.artifacts (Utf8.decodeLossy finished.stdout) = .ok artifacts ∧
    TextMap.find? artifacts key = some digits

def CompiledTo (store : CompilerStore) (label : String) (sources : SourceTree) (key digits : String)
    (host after : Host) : Prop :=
  ∃ loaded run finished, CompiledBy store label sources key digits host loaded after run finished

/-- The next answer of the node was to the question for the code at this address, and it carries
this text as its result. -/
def AnsweredWith (node : Node) (address code : String) (host after : Host) : Prop :=
  Node.isAddress address = true ∧
  (∃ answer, host.network.posts.head? = some (.answer answer) ∧ Node.Carries answer code) ∧
  ∃ url, Url.ofText node.url = .ok url ∧ after.network.seen.getLast? =
    some ⟨.post, url.withoutUser.text, some (Node.question address).compact⟩

/-- Whether the regions that the standard table bounds agree, of the compiled digits behind their
prefix and of the code as the node writes it. -/
def Compared (label digits code : String) (verdict : Bool) : Prop :=
  ∃ version, ∃ compiled deployed : Bytecode, Version.ofLabel label = .ok version ∧
    compiled.text = "0x" ++ digits ∧ deployed.text = code ∧
    (Region.extract .standard version compiled).agrees
      (Region.extract .standard version deployed) = verdict

/-- What a verdict rests on. -/
structure Grounds (settings : Settings) (label contract file address base : String)
    (paths : List String) (sources : SourceTree) (digits code : String) (host after : Host)
    (verdict : Bool) : Prop where
  read : Sources.ReadFrom host base paths sources
  spelled : ∀ name ∈ sources.keys, "/".intercalate (Path.names name) = name
  listed : file ∈ sources.keys
  compiled : CompiledTo (.ofSettings settings.mirror settings.compilerDirectory) label sources
    (contractKey file contract) digits host after
  answered : AnsweredWith ⟨settings.rpcUrl⟩ address code host after
  digitPairs : IsHexPairs digits.toList
  codePairs : IsHexPairs (hexBody code.toList)
  compared : Compared label digits code verdict

def Gives (told : Told Unit) : Bool → Prop
  | true => told.result = .ok ()
  | false => ∃ contract address, told.result = .error (.notVerified contract address)

/-! ## From the collaborators to the verdict -/

theorem compared_of_drawn {report : Verification.Report}
    (drawn : report.Drawn .standard request digits code) :
    IsHexPairs digits.toList ∧ IsHexPairs (hexBody code.toList) ∧
      Compared request.label digits code report.verified := by
  obtain ⟨compiled, deployed, produced, held, -, -, verified⟩ := drawn.readings
  obtain ⟨digitPairs, compiledText⟩ := Bytecode.ofDigits_eq_ok.mp produced
  obtain ⟨codePairs, deployedText⟩ := Bytecode.ofText_eq_ok.mp held
  exact ⟨digitPairs, codePairs, report.version, compiled, deployed, drawn.version, compiledText,
    deployedText, verified.symm⟩

theorem work_of_brings {later : Cache Compiler} {artifacts : Artifacts} {capacity : Nat}
    (rooted : host.disk.Rooted host.workingDirectory)
    (distinct : (request.sources.map fun source => Path.names source.1).Nodup)
    (brings : Verification.Brings (Verification.onHost store node) request (.empty capacity) host
      artifacts code later after) {key : String}
    (found : TextMap.find? artifacts key = some digits) :
    CompiledTo store request.label request.sources key digits host after ∧
      AnsweredWith node request.address code host after := by
  obtain ⟨compiler, loaded, compiled, obtained, produced, asked⟩ := brings
  have loading : store.load request.label host = (.ok compiler, loaded) :=
    Verification.obtain_empty_eq_ok obtained
  have accepted := CompilerStore.checkLabel_of_load loading
  have found_ := fun unlinked => CompilerStore.pathExists_of_load rooted unlinked loading
  obtain ⟨rfl, fetches⟩ := CompilerStore.load_eq_ok rooted loading
  obtain ⟨run, finished, ranOn, runs, network, success, parsed⟩ :=
    Compiler.ranOn_of_compile fetches.rooted.tree distinct produced
  obtain ⟨proper, only, ⟨answer, next, carries⟩, url, read, seen⟩ := Node.code_eq_ok asked
  have start := (Compiler.programPath_eq store accepted).1
  constructor
  · refine ⟨loaded, run, finished, loading, found_, ranOn, ?_, ?_, ?_, success, artifacts, parsed,
      found⟩
    · rw [only, runs, fetches.runs]
    · exact fun absolute => ranOn.of_isAbsolute (start.trans absolute)
    · exact fun relative =>
        Compiler.up_of_programPath accepted (ranOn.upward (start.trans relative))
  · refine ⟨proper, ⟨answer, ?_, carries⟩, url, read, ?_⟩
    · rw [← fetches.posts, ← network, next]
    · rw [seen, List.getLast?_concat]

theorem verified_of_run {σ κ : Type} {collaborators : Verification.Collaborators σ κ}
    {policies : Policies} {lead : Verification.Lead} {cache later : Cache κ} {world ended : σ}
    (ran : Verification.run collaborators policies lead format request cache world =
      (told, later, ended))
    (gives : Gives told verdict) :
    ∃ report, Verification.verify collaborators policies lead request cache world =
      (.ok report, later, ended) ∧ report.verified = verdict := by
  unfold Verification.run at ran
  cases verified : Verification.verify collaborators policies lead request cache world with
  | mk outcome rest =>
      obtain ⟨kept, reached⟩ := rest
      cases outcome with
      | error fault =>
          simp only [verified, Prod.mk.injEq] at ran
          obtain ⟨rfl, -, -⟩ := ran
          cases verdict <;> simp [Gives] at gives
      | ok report =>
          simp only [verified, Prod.mk.injEq] at ran
          obtain ⟨rfl, rfl, rfl⟩ := ran
          refine ⟨report, rfl, ?_⟩
          cases agreed : report.verified <;> cases verdict <;>
            simp [Gives, Verification.Report.tell, agreed] at gives ⊢

theorem grounds_of_verify (rooted : host.disk.Rooted host.workingDirectory)
    (read : Sources.ReadFrom host base paths sources) (listed : file ∈ sources.keys)
    (verified : Program.verify format settings ⟨sources, label, contract, file, address⟩ host =
      (told, after))
    (gives : Gives told verdict) :
    ∃ digits code, Grounds settings label contract file address base paths sources digits code
      host after verdict := by
  unfold Program.verify at verified
  cases ran : Verification.run (Verification.onHost
      (.ofSettings settings.mirror settings.compilerDirectory) ⟨settings.rpcUrl⟩) .standard .node
      format ⟨sources, label, contract, file, address⟩ (.empty settings.cacheCapacity) host with
  | mk _ rest =>
      obtain ⟨later, ended⟩ := rest
      simp only [ran, Prod.mk.injEq] at verified
      obtain ⟨rfl, rfl⟩ := verified
      obtain ⟨report, course, same⟩ := verified_of_run ran gives
      obtain ⟨artifacts, code, brings, reported⟩ := Verification.brings_of_verify course
      obtain ⟨digits, found, drawn⟩ := Verification.report_eq_ok reported
      have named := rooted.tree.named rooted.working
      obtain ⟨compiled, answered⟩ :=
        work_of_brings rooted (read.nodup_names named) brings found
      obtain ⟨digitPairs, codePairs, compared⟩ := compared_of_drawn drawn
      exact ⟨digits, code, read, fun name => read.spelled named, listed, compiled, answered,
        digitPairs, codePairs, same ▸ compared⟩

/-! ## The command -/

theorem grounds_of_perform (rooted : host.disk.Rooted host.workingDirectory)
    (asked : invocation.command = .verify label contract file address base paths)
    (performed : perform invocation home host = (told, after)) (verdict : Bool)
    (gives : Gives told verdict) :
    ∃ settings sources digits code, Program.settings invocation home host = .ok settings ∧
      Grounds settings label contract file address base paths sources digits code host after
        verdict := by
  simp only [perform, asked] at performed
  cases prepared : prepare invocation home host label contract file address base paths with
  | error fault =>
      simp only [prepared, Prod.mk.injEq] at performed
      obtain ⟨rfl, -⟩ := performed
      cases verdict with
      | true => simp [Gives, silent] at gives
      | false =>
          obtain ⟨other, place, mismatch⟩ := gives
          obtain rfl : fault = .notVerified other place := by simpa [silent] using mismatch
          exact absurd prepared (spares_prepare _ _ _ _ _ _ _ _ _ other place)
  | ok triple =>
      obtain ⟨format, settings, request⟩ := triple
      simp only [prepared] at performed
      obtain ⟨resolved, sources, read, listed, rfl⟩ := prepare_eq_ok prepared
      obtain ⟨digits, code, grounds⟩ := grounds_of_verify rooted read listed performed gives
      exact ⟨settings, sources, digits, code, resolved, grounds⟩

/-- The command to verify ends well only on the grounds of an agreement, and reports a mismatch only
on the same grounds of a disagreement. -/
theorem verify_grounded (rooted : host.disk.Rooted host.workingDirectory)
    (asked : invocation.command = .verify label contract file address base paths)
    (performed : perform invocation home host = (told, after)) :
    (told.result = .ok () → ∃ settings sources digits code,
      Program.settings invocation home host = .ok settings ∧
      Grounds settings label contract file address base paths sources digits code host after
        true) ∧
    ((∃ other place, told.result = .error (.notVerified other place)) →
      ∃ settings sources digits code, Program.settings invocation home host = .ok settings ∧
      Grounds settings label contract file address base paths sources digits code host after
        false) := by
  constructor
  · exact fun success => grounds_of_perform rooted asked performed true success
  · exact fun mismatch => grounds_of_perform rooted asked performed false mismatch

/-! ## A small computer -/

def smallProgram (digits : String) : Payload :=
  ⟨[], some
    ⟨Utf8.encode
      ("\x7b\"contracts\":\x7b\"a.sol:A\":\x7b\"bin-runtime\":\"" ++ digits ++ "\"\x7d\x7d\x7d"),
      [], .exited 0⟩⟩

def smallNetwork (code : String) : Network :=
  .serving [] [.answer ⟨200, .ofText ("\x7b\"result\":\"" ++ code ++ "\"\x7d"), none, 0⟩]

def smallDisk : Disk :=
  ⟨[(["a.sol"], .file (.ofText "") Disk.newFileMode),
    (["solc-v0.4.7+"], .file (smallProgram "6a") Disk.programMode)]⟩

def smallHost (code : String) : Host where
  disk := smallDisk
  network := smallNetwork code
  workingDirectory := []
  scratch := []
  mishaps := []
  runs := []

def smallAddress : String := "0x00000000000000000000000000000000000000aA"

def smallInvocation (directory base : String) : CommandLine.Invocation where
  config := none
  verbose := false
  format := "json"
  overrides := ⟨some "http://[::1]", some "http://a", some "http://a", some directory⟩
  command := .verify "v0.4.7+" "A" "a.sol" smallAddress base ["a.sol"]

theorem rooted_smallHost (code : String) : (smallHost code).disk.Rooted [] :=
  have tree : smallDisk.IsTree := Disk.isTree_of_entries (by decide +kernel)
  ⟨tree, rfl⟩

theorem verify_grounded_small :
    (∃ settings sources digits code,
      Program.settings (smallInvocation "/" "/") none (smallHost "0X6A") = .ok settings ∧
      Grounds settings "v0.4.7+" "A" "a.sol" smallAddress "/" ["a.sol"] sources digits code
        (smallHost "0X6A") (perform (smallInvocation "/" "/") none (smallHost "0X6A")).2 true) ∧
    ∃ settings sources digits code,
      Program.settings (smallInvocation "/" "/") none (smallHost "0X6B") = .ok settings ∧
      Grounds settings "v0.4.7+" "A" "a.sol" smallAddress "/" ["a.sol"] sources digits code
        (smallHost "0X6B") (perform (smallInvocation "/" "/") none (smallHost "0X6B")).2 false :=
  ⟨(verify_grounded (rooted_smallHost "0X6A") rfl rfl).1 (by rfl),
    (verify_grounded (rooted_smallHost "0X6B") rfl rfl).2 ⟨_, _, (by rfl)⟩⟩

/-! ## A relative path that leads to two programs -/

def splitHost : Host where
  disk := ⟨[(["w"], .directory), (["w", "x"], .directory),
    (["w", "x", "a.sol"], .file (.ofText "") Disk.newFileMode), (["w", "c"], .directory),
    (["w", "c", "solc-v0.4.7+"], .file (smallProgram "6a") Disk.programMode),
    (["tmp"], .directory), (["tmp", "c"], .directory),
    (["tmp", "c", "solc-v0.4.7+"], .file (smallProgram "6b") Disk.programMode)]⟩
  network := smallNetwork "0x6b"
  workingDirectory := ["w", "x"]
  scratch := ["tmp"]
  mishaps := []
  runs := []

/-- The sources are found to match the code although the compiler that was loaded was not run. -/
theorem not_verify_runs_what_was_loaded : ¬ ∀ (invocation : CommandLine.Invocation)
    (home : Option String) (host after : Host) (told : Told Unit) (settings : Settings)
    (label contract file address base : String) (paths : List String),
    host.disk.Rooted host.workingDirectory →
    invocation.command = .verify label contract file address base paths →
    Program.settings invocation home host = .ok settings →
    perform invocation home host = (told, after) → told.result = .ok () →
    ∃ compiler loaded place finished,
      (CompilerStore.ofSettings settings.mirror settings.compilerDirectory).load label host =
        (.ok compiler, loaded) ∧
      loaded.disk.programAt loaded.workingDirectory compiler.program = .ok (place, finished) ∧
      ∃ run ∈ after.runs, run.program = place := by
  intro always
  have rooted : splitHost.disk.Rooted splitHost.workingDirectory :=
    ⟨Disk.isTree_of_entries (by decide +kernel), rfl⟩
  have resolved : Program.settings (smallInvocation "../c" ".") none splitHost =
      .ok ⟨"http://[::1]", "http://a", "http://a", "../c", Cache.standardCapacity,
        Settings.standardTimeout⟩ := rfl
  have verified : (perform (smallInvocation "../c" ".") none splitHost).1.result = .ok () := by rfl
  obtain ⟨compiler, loaded, place, finished, loading, found, run, listed, same⟩ :=
    always _ _ _ _ _ _ _ _ _ _ _ _ rooted rfl resolved (Prod.eta _).symm verified
  have loads : (CompilerStore.ofSettings "http://a" "../c").load "v0.4.7+" splitHost =
      (.ok ⟨"v0.4.7+", "../c/solc-v0.4.7+"⟩, splitHost) := by decide +kernel
  obtain ⟨only, rfl⟩ := Prod.mk.inj (loads.symm.trans loading)
  obtain rfl := Except.ok.inj only
  have kept : (splitHost.disk.programAt ["w", "x"] "../c/solc-v0.4.7+").map Prod.fst =
      .ok ["w", "c", "solc-v0.4.7+"] := by decide +kernel
  have place_eq : ["w", "c", "solc-v0.4.7+"] = place :=
    Except.ok.inj (kept.symm.trans (congrArg (Except.map Prod.fst) found))
  have ran : (perform (smallInvocation "../c" ".") none splitHost).2.runs.map Run.program =
      [["tmp", "c", "solc-v0.4.7+"]] := by decide +kernel
  have member : run.program ∈ [["tmp", "c", "solc-v0.4.7+"]] :=
    ran ▸ List.mem_map_of_mem listed
  rw [same, ← place_eq] at member
  exact absurd member (by decide)

end Program

end DeployCheck
