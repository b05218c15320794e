import CompileService.FileTree.Edit
import CompileService.Process.Basic

/-!
# Scripted processes

A runner that follows a script: for each process in turn it says what the process does to the files
and how it ends. Beyond the end of the script processes do nothing and end well.
-/

namespace CompileService

/-- How a scripted process ends. -/
inductive Ending where
  | timedOut
  | notStarted (details : List Json)
  | crashed (details : List Json)
  /-- It exits, having written a file if it is told to. -/
  | exits (written : Option Text) (status : Int) (output : Option Text)

/-- What a scripted process does. -/
structure ScriptedRun where
  edits : List FileEdit := []
  ending : Ending := .exits none 0 (some [])

namespace ScriptedRun

/-- The argument after `-o`. -/
def outputPath? : List Text → Option Text
  | [] => none
  | [_] => none
  | flag :: path :: rest => if flag = lit "-o" then some path else outputPath? (path :: rest)

/-- What a fault among the files means: one of the file system is the reason why a process could not
be started. -/
def refusal : EditFault → Outcome
  | .onPath path (.system errno) => .notStarted (.system errno path.toText)
  | .onPath _ .embeddedNul => .crashed .embeddedNul
  | .onPath _ (.unencodable fault) => .crashed (.unencodable fault)
  | .undecodable fault => .crashed (.undecodable fault)

/-- Carries out what a process does. -/
def perform (r : ScriptedRun) (launch : Launch) (files : Folder) : Outcome × Folder :=
  match FileEdit.applyAll files r.edits with
  | (files, some fault) => (refusal fault, files)
  | (files, none) =>
    match r.ending with
    | .timedOut => (.timedOut, files)
    | .notStarted details => (.notStarted (.reported details), files)
    | .crashed details => (.crashed (.runtime details), files)
    | .exits none status output => (.exited status output, files)
    | .exits (some t) status output =>
      match outputPath? launch.argv with
      | none => (.crashed .noOutputPath, files)
      | some out =>
        let path := FilePath.ofText out
        match FileTree.storeFile files path (Utf8.encodeAll t) with
        | .ok files => (.exited status output, files)
        | .error fault => (refusal (.onPath path fault), files)

/-- The runner that follows a script. -/
def runner (script : List ScriptedRun) : Runner := fun n launch files =>
  ((script[n]?).getD {}).perform launch files

end ScriptedRun

end CompileService
