import CollectionRunner.Program

open CollectionRunner

/-- The files of the machine, as far as the arguments may lead to them. -/
def diskFor (arguments : List String) : IO Files.Disk := do
  let here ← IO.currentDir
  let workingDirectory := here.toString
  let paths := match CommandLine.Invocation.ofArguments arguments with
    | .ok i => i.task.paths workingDirectory
    | .error _ => []
  let places := paths.flatMap fun p => Files.Disk.visited [] (Files.parts p)
  let found ← places.eraseDups.mapM fun place => do
    let path := here / ("/" ++ String.intercalate "/" place)
    try
      if ← path.isDir then return [(place, Files.Entry.directory)]
      else return [(place, Files.Entry.file (← IO.FS.readBinFile path))]
    catch _ => return []
  return { workingDirectory, entries := found.flatten }

/-- Whether output is coloured: when that is forced, or when a terminal shows it and nobody
objects. -/
def wantsColours : IO Bool := do
  let isOn (name : String) (default : Bool) : IO Bool := do
    return ((← IO.getEnv name).map (· != "0")).getD default
  if ← isOn "CLICOLOR_FORCE" false then return true
  if (← IO.getEnv "NO_COLOR").isSome then return false
  if ← isOn "CLICOLOR" true then return ← (← IO.getStdout).isTty
  return false

def main (arguments : List String) : IO UInt32 := do
  let surroundings : Surroundings :=
    { disk := ← diskFor arguments
      network := Http.unreachable
      colours := ← wantsColours
      logSetting := ← IO.getEnv "RUST_LOG"
      time := toString (← IO.monoMsNow) ++ "ms" }
  let transcript := surroundings.program arguments
  IO.print transcript.output
  IO.eprint transcript.errors
  return transcript.exit.toUInt32
