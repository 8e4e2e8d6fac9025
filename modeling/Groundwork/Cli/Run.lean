/-
The command line: what is printed for its words and the file that they name.
-/
import Groundwork.Cli.Arguments
import Groundwork.Config
import Groundwork.Failure
import Groundwork.Trigger

set_option autoImplicit false

namespace Groundwork.Cli

/-- What the program prints, and the code that it ends with. -/
structure Output where
  code : Nat := 0
  stdout : String := ""
  stderr : String := ""
deriving DecidableEq, Repr

/-! ## Lists of projects -/

/-- A project on a line, its parts set apart by tabs. -/
def projectLine (p : Project) : String :=
  String.intercalate "\t" [p.dir, p.tool.name, if p.workspaceKey.isEmpty then "-" else p.workspaceKey,
    "workflow=" ++ p.workflowName, "auto=" ++ toString p.autoPlot] ++ "\n"

/-- A configuration on some lines: what it holds, and its projects. -/
def summary (c : Config) : String :=
  c.version ++ ": " ++ toString c.workflows.size ++ " workflows, " ++ toString c.projects.length
    ++ " projects\n" ++ String.join (c.projects.map projectLine)

/-- The checks that changes of some paths would get. -/
def matchedContexts (c : Config) (paths : List String) (mode : Trigger.Mode) : List String :=
  (Trigger.projects (paths.map Change.modified) c.projects mode).map (·.checkContext .plot)

/-- What is printed for a configuration. -/
def Plan.print (p : Plan) (c : Config) : String :=
  match p.verb with
  | .validate => summary c
  | .matchPaths =>
    let mode := if p.explicit then .explicit else .auto
    String.join ((matchedContexts c p.paths mode).map (· ++ "\n"))

/-! ## The whole -/

/-- The file with the configuration. -/
def Plan.file (p : Plan) : String :=
  p.config.getD Config.fileName

/-- The configuration in a file that was read, or why it could not be. -/
def loadFile (file : String) : Except String ByteArray → Except Failure Config
  | .error cause => .error ⟨"Failed to read " ++ file, [cause]⟩
  | .ok bytes => (Config.load bytes).mapError fun e => ⟨"Failed to load " ++ file, e.chain⟩

/-- What comes of a plan, with the file that it names or why it could not be read. -/
def Plan.run (p : Plan) (content : Except String ByteArray) : Output :=
  match loadFile p.file content with
  | .ok c => { stdout := p.print c }
  | .error failure => { code := 1, stderr := "Failed: " ++ failure.report ++ "\n" }

/-- What is printed for words that make no sense. -/
def Error.output (e : Error) : Output where
  code := 1
  stderr := e.message ++ "\nRun " ++ programName ++ " --help for more information.\n"

/-- What is printed for the words of a command line; `read` gives the content of a file, or
why it cannot be read. -/
def run {m : Type → Type} [Monad m] (read : String → m (Except String ByteArray))
    (words : List String) : m Output :=
  match parse words with
  | .error e => return e.output
  | .ok (.help none) => return { stdout := programHelp ++ "\n" }
  | .ok (.help (some verb)) => return { stdout := verbHelp verb ++ "\n" }
  | .ok (.run p) => return p.run (← read p.file)

end Groundwork.Cli
