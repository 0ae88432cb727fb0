import Sequencer.CommandLine.Response

/-!
# The program

Reads the files, the environment and a random identifier, and shows the answer.
-/

namespace Sequencer

/-- The files that are there, with their texts. -/
def readTexts (names : List String) : IO Texts :=
  names.filterMapM fun (name : String) => do
    try
      return some (name, ← IO.FS.readFile name)
    catch _ => return none

def readEnvironment : IO Texts := do
  let bytes ← IO.FS.readBinFile "/proc/self/environ"
  return Variables.ofBlock ((String.fromUTF8? bytes).getD "")

def randomId : IO EngineId := do
  let bytes ← IO.getRandomBytes 16
  return Uuid.ofRandom (bytes.foldl (fun bits byte => bits <<< 8 ||| BitVec.ofNat 128 byte.toNat) 0)

def answer (args : List String) : IO Response := do
  let files ← readTexts (Response.fileNames args)
  return Response.ofArguments (← randomId) args files (← readEnvironment)

end Sequencer

def main (args : List String) : IO UInt32 := do
  let response ← Sequencer.answer args
  for line in response.stderr do
    IO.eprintln line
  IO.print response.stdout
  return UInt32.ofNat response.code
